/-
# Scripts Survive Being Saved

A script whose whole numbers are not too long is kept by a text (`Script.kept_toValue`), so that it is
loaded again from the file in which it was saved. Every script that was read has such numbers, because
the conversions yield no others (`Script.short_of_ofValue`). The main statement is
`Script.load_save`.
-/
import Deskwork.Proofs.Files.Saving
import Deskwork.Proofs.Json.Short
import Deskwork.Proofs.Script.Fidelity
import Deskwork.Proofs.Script.Loading

namespace Deskwork

open Deskwork.Files Deskwork.Number

/-! ## Short numbers -/

/-- The whole numbers in the fields of an action do not have too many digits. -/
def Action.Short (a : Action) : Prop := ∀ f ∈ a.fields, f.2.Short

/-- The whole numbers in the steps of a script do not have too many digits. -/
def Script.Short (s : Script) : Prop := ∀ step ∈ s.steps, step.action.Short

namespace Value

/-- A text is short. -/
@[simp]
theorem short_text (s : String) : (Value.text s).Short := .scalar trivial

/-- A truth value is short. -/
@[simp]
theorem short_bool (b : Bool) : (Value.bool b).Short := .scalar trivial

/-- A list of texts, or its absence, is short. -/
@[simp]
theorem short_textsValue (ts : Option (List String)) : (textsValue ts).Short := by
  cases ts with
  | none => exact .scalar trivial
  | some ts =>
    refine .list fun v mem => ?_
    obtain ⟨s, _, rfl⟩ := List.mem_map.mp mem
    exact short_text s

/-- A number with few digits is short. -/
theorem short_of_lt {n : Int} (h : n.natAbs < 10 ^ 5) : (Value.int n).Short :=
  .scalar (h.trans_le (Nat.pow_le_pow_right (by decide) (by decide)))

/-- The field of an object is short when all of them are. -/
theorem short_of_field? {fs : Fields} {name : String} {v : Value} (short : ∀ f ∈ fs, f.2.Short)
    (h : field? fs name = some v) : v.Short := by
  obtain ⟨before, after, rfl, -⟩ := List.lookup_eq_some_iff.mp h
  exact short (name, v) (by simp)

/-- The field of an object, or a short value that stands for it, is short. -/
theorem short_fieldOr {fs : Fields} {name : String} {other : Value}
    (short : ∀ f ∈ fs, f.2.Short) (h : other.Short) : (fieldOr fs name other).Short := by
  unfold fieldOr
  cases found : field? fs name with
  | none => exact h
  | some v => exact short_of_field? short found

/-- The fields of a short object are short. -/
theorem Short.fields {fs : Fields} (h : (Value.object fs).Short) : ∀ f ∈ fs, f.2.Short := by
  cases h with
  | object short => exact short

/-- The items of a short list are short. -/
theorem Short.items {items : List Value} (h : (Value.list items).Short) : ∀ v ∈ items, v.Short := by
  cases h with
  | list short => exact short

end Value

/-! ## What conversions yield -/

/-- Whatever is read has a property. -/
def Yields {α : Type} (P : α → Prop) (r : Except Fault α) : Prop := ∀ a, r = .ok a → P a

namespace Yields

variable {α β : Type} {P : α → Prop} {Q : β → Prop}

/-- Nothing is left to be read. -/
theorem done {a : α} (h : P a) : Yields P (pure a) := by
  rintro _ ⟨⟩
  exact h

/-- One part is read after the other, and the property of the first may be used. -/
theorem bind {r : Except Fault α} {k : α → Except Fault β} (h : Yields P r)
    (hk : ∀ a, P a → Yields Q (k a)) : Yields Q (r >>= k) := by
  intro b made
  obtain ⟨a, first, rest⟩ := bind_eq_ok_iff.mp made
  exact hk a (h a first) b rest

/-- A part is read of which nothing needs to be known. -/
theorem skip {r : Except Fault α} {k : α → Except Fault β} (hk : ∀ a, Yields Q (k a)) :
    Yields Q (r >>= k) :=
  bind (P := fun _ => True) (fun _ _ => trivial) fun a _ => hk a

/-- Something is made of what is read. -/
theorem map {r : Except Fault α} {g : α → β} (h : Yields (fun a => Q (g a)) r) :
    Yields Q (g <$> r) := by
  intro b made
  obtain ⟨a, first, rfl⟩ := map_eq_ok_iff.mp made
  exact h a first

/-- A whole number that is read from a value is short when the value is. -/
theorem int {v : Value} (short : v.Short) :
    Yields (fun n => (Value.int n).Short) (Convert.int v) := by
  intro n read
  rw [Convert.int] at read
  split at read
  · unfold Convert.wholeOf at read
    split at read
    case h_1 b _ =>
      cases read
      refine Value.short_of_lt ?_
      cases b with
      | true => decide
      | false => decide
    case h_2 =>
      cases read
      exact short
    case h_3 => exact .scalar (natAbs_lt_of_truncate (mapError_eq_ok_iff.mp read))
    case h_4 => exact .scalar (natAbs_lt_of_readInt (mapError_eq_ok_iff.mp read))
    case h_5 => cases read
  · cases read
    exact Value.short_of_lt (by decide)

/-- A field for a whole number, and then the others. -/
theorem whole {fs : Fields} (short : ∀ f ∈ fs, f.2.Short) {name : String} {other : Int}
    (few : other.natAbs < 10 ^ 5) {k : Int → Except Fault β}
    (hk : ∀ n, (Value.int n).Short → Yields Q (k n)) :
    Yields Q (Convert.field fs name Convert.int other >>= k) := by
  refine bind (P := fun n => (Value.int n).Short) ?_ hk
  unfold Convert.field
  split
  case h_1 found => exact int (Value.short_of_field? short found)
  case h_2 => exact done (Value.short_of_lt few)

end Yields

/-! ## Kinds with whole numbers -/

section Kinds

open Yields

variable {fs : Fields} (short : ∀ f ∈ fs, f.2.Short)

include short

theorem MouseClick.yields_short : Yields (fun m => (Action.mouseClick m).Short) (ofFields fs) :=
  whole short (by decide) fun _ x => whole short (by decide) fun _ y => skip fun _ =>
    whole short (by decide) fun _ delay =>
      done (by simp [Action.Short, Action.fields, fields, x, y, delay])

theorem Keyboard.yields_short : Yields (fun k => (Action.keyboard k).Short) (ofFields fs) :=
  skip fun _ => skip fun _ => skip fun _ => skip fun _ => whole short (by decide) fun _ delay =>
    done (by simp [Action.Short, Action.fields, fields, delay])

theorem Waiting.yields_short : Yields (fun w => (Action.wait w).Short) (ofFields fs) :=
  skip fun _ => whole short (by decide) fun _ millis => skip fun _ =>
    whole short (by decide) fun _ timeout =>
      done (by simp [Action.Short, Action.fields, fields, millis, timeout])

theorem Windowing.yields_short : Yields (fun w => (Action.window w).Short) (ofFields fs) :=
  skip fun _ => skip fun _ => skip fun _ => skip fun _ => skip fun _ =>
    whole short (by decide) fun _ position => whole short (by decide) fun _ delay =>
      done (by simp [Action.Short, Action.fields, fields, position, delay])

theorem Branch.yields_short : Yields (fun b => (Action.branch b).Short) (ofFields fs) :=
  skip fun _ => skip fun _ => skip fun _ => skip fun _ => whole short (by decide) fun _ target =>
    done (by simp [Action.Short, Action.fields, fields, target])

theorem LoopEnd.yields_short : Yields (fun l => (Action.loopEnd l).Short) (ofFields fs) :=
  whole short (by decide) fun _ start => skip fun _ => skip fun _ => skip fun _ =>
    whole short (by decide) fun _ repetitions =>
      done (by simp [Action.Short, Action.fields, fields, start, repetitions])

theorem Webhook.yields_short : Yields (fun w => (Action.webhook w).Short) (ofFields fs) :=
  skip fun _ => skip fun _ => skip fun _ => skip fun _ => whole short (by decide) fun _ timeout =>
    done (by simp [Action.Short, Action.fields, fields, timeout])

/-- Whatever the kind, an action that is read is short when the fields are. -/
theorem Action.yields_short {entry : String × (Fields → Except Fault Action)}
    (known : entry ∈ readers) : Yields Action.Short (entry.2 fs) := by
  simp only [readers, List.mem_cons, List.not_mem_nil, or_false] at known
  rcases known with rfl | rfl | rfl | rfl | rfl | rfl | rfl | rfl | rfl | rfl | rfl | rfl | rfl
    | rfl | rfl
  · exact (MouseClick.yields_short short).map
  · exact (Keyboard.yields_short short).map
  · exact (Waiting.yields_short short).map
  · exact (Windowing.yields_short short).map
  · exact map fun a _ => by simp [Short, fields, Assignment.fields]
  · exact (Branch.yields_short short).map
  · exact map fun a _ => by simp [Short, fields, LoopStart.fields]
  · exact (LoopEnd.yields_short short).map
  · exact map fun a _ => by simp [Short, fields, FileTransfer.fields]
  · exact map fun a _ => by simp [Short, fields, FileTransfer.fields]
  · exact map fun a _ => by simp [Short, fields, Deletion.fields]
  · exact map fun a _ => by simp [Short, fields, Renaming.fields]
  · exact map fun a _ => by simp [Short, fields, FolderCreation.fields]
  · exact map fun a _ => by simp [Short, fields, ExistenceCheck.fields]
  · exact (Webhook.yields_short short).map

/-- A step that is read is short when the data are. -/
theorem Step.yields_short : Yields (fun s => s.action.Short) (Step.ofFields fs) := by
  unfold Step.ofFields
  dsimp only
  split
  · rintro _ ⟨⟩
  case h_2 reader known =>
    obtain ⟨before, after, whole, -⟩ := List.lookup_eq_some_iff.mp known
    have member : (Step.tagOf fs, reader) ∈ Action.readers := by simp [whole]
    have data : (Value.fieldOr fs "data" .null).Short := Value.short_fieldOr short (.scalar trivial)
    refine bind (P := fun inner : Fields => ∀ f ∈ inner, f.2.Short) ?_ fun inner short =>
      skip fun _ => skip fun _ => bind (Action.yields_short short member) fun _ made => done made
    intro inner found
    unfold Step.payloadOf at found
    dsimp only at found
    split at found
    · cases found
      simp
    · split at found
      case h_1 object =>
        cases found
        exact (object ▸ data).fields
      case h_2 => cases found

end Kinds

/-! ## Scripts that are read -/

namespace Script

/-- The step that is read from a short entry is short. -/
theorem short_of_readStep {index : Nat} {v : Value} {s : Step} (short : v.Short)
    (h : readStep index v = .ok s) : s.action.Short := by
  cases v with
  | object fields =>
    rw [readStep, mapError_eq_ok_iff] at h
    exact Step.yields_short short.fields s h
  | scalar _ | list _ => cases h

/-- The steps that are read from short entries are short. -/
theorem short_of_readSteps {entries : List Value} (short : ∀ v ∈ entries, v.Short) {index : Nat}
    {steps : List Step} (h : readSteps index entries = .ok steps) :
    ∀ s ∈ steps, s.action.Short := by
  induction entries generalizing index steps with
  | nil =>
    cases h
    simp
  | cons v entries ih =>
    obtain ⟨first, others⟩ := List.forall_mem_cons.mp short
    obtain ⟨s, made, h⟩ := bind_eq_ok_iff.mp h
    obtain ⟨rest, read, h⟩ := bind_eq_ok_iff.mp h
    cases h
    exact List.forall_mem_cons.mpr ⟨short_of_readStep first made, ih others read⟩

/-- A script that is read from a short value is short. -/
theorem short_of_ofValue {v : Value} {s : Script} (short : v.Short) (h : ofValue v = .ok s) :
    s.Short := by
  rcases ofValue_cases v with ⟨_, f, _, failed⟩ | ⟨entries, name, there, read⟩
  · rw [failed] at h
    cases h
  · obtain ⟨steps, found, rfl⟩ := map_eq_ok_iff.mp (read ▸ h)
    refine short_of_readSteps (?_ : ∀ v ∈ entries, v.Short) found
    cases v with
    | scalar _ | list _ => cases there
    | object fields =>
      have value : (Value.fieldOr fields "actions" (.list [])).Short :=
        Value.short_fieldOr short.fields (.list (by simp))
      simp only [entries?] at there
      split at there
      · cases there
        simp
      · split at there
        case h_1 list =>
          cases there
          exact (list ▸ value).items
        case h_2 => cases there

/-- A script that is loaded is short. -/
theorem short_of_load {t : Tree} {p : Path} {s : Script} (h : load t p = .ok s) : s.Short := by
  unfold load at h
  split at h
  · cases h
  · cases h
  · split at h
    · cases h
    case h_2 v read =>
      refine short_of_ofValue ?_ h
      unfold readValue at read
      split at read
      · cases read
      · exact Json.short_of_read (mapError_eq_ok_iff.mp read)

end Script

/-! ## Scripts that are written -/

/-- The values that stand in the fields of a step. -/
inductive Value.Plain : Value → Prop where
  /-- A text. -/
  | words (s : String) : Plain (.text s)
  /-- A truth value. -/
  | truth (b : Bool) : Plain (.bool b)
  /-- A whole number. -/
  | whole (n : Int) : Plain (.int n)
  /-- A list of texts, or its absence. -/
  | texts (ts : Option (List String)) : Plain (textsValue ts)

/-- A text keeps the value of a field whose number is short. -/
theorem Value.Plain.kept {v : Value} (plain : v.Plain) (short : v.Short) : v.Kept := by
  cases plain with
  | words s => exact .scalar trivial
  | truth b => exact .scalar trivial
  | whole n =>
    cases short with
    | scalar short => exact .scalar short
  | texts ts =>
    cases ts with
    | none => exact .scalar trivial
    | some ts =>
      refine .list fun v mem => ?_
      obtain ⟨s, _, rfl⟩ := List.mem_map.mp mem
      exact .scalar trivial

section Fields

attribute [local simp] Action.fields MouseClick.fields Keyboard.fields Waiting.fields
  Windowing.fields FileTransfer.fields Deletion.fields Renaming.fields FolderCreation.fields
  ExistenceCheck.fields Assignment.fields Branch.fields LoopStart.fields LoopEnd.fields
  Webhook.fields

/-- The fields of an action hold nothing but texts, truth values, whole numbers and lists of texts. -/
theorem Action.plain_fields (a : Action) : ∀ f ∈ a.fields, f.2.Plain := by
  cases a <;> simp [Value.Plain.words, Value.Plain.truth, Value.Plain.whole, Value.Plain.texts]

/-- The fields of a step have different names. -/
theorem Action.nodup_framed (a : Action) (enabled continueOnError : Bool) :
    (Table.keys (framed enabled continueOnError a.fields)).Nodup := by
  cases a <;> simp [framed, Table.keys]

end Fields

/-- A text keeps a step whose numbers are short. -/
theorem Step.kept_toValue {s : Step} (short : s.action.Short) : s.toValue.Kept := by
  have data : (Value.object (framed s.enabled s.continueOnError s.action.fields)).Kept := by
    refine .object ?_ (s.action.nodup_framed _ _)
    have own : ∀ f ∈ s.action.fields, f.2.Kept := fun f mem =>
      (s.action.plain_fields f mem).kept (short f mem)
    exact List.forall_mem_cons.mpr ⟨.scalar trivial, List.forall_mem_cons.mpr ⟨.scalar trivial, own⟩⟩
  rw [s.toValue_eq]
  refine .object ?_ (by simp [Table.keys])
  exact List.forall_mem_cons.mpr ⟨.scalar trivial, List.forall_mem_singleton.mpr data⟩

/-- A text keeps a script whose numbers are short. -/
theorem Script.kept_toValue {s : Script} (short : s.Short) : s.toValue.Kept := by
  have steps : (Value.list (s.steps.map Step.toValue)).Kept := by
    refine .list fun v mem => ?_
    obtain ⟨step, member, rfl⟩ := List.mem_map.mp mem
    exact Step.kept_toValue (short step member)
  refine .object ?_ (by simp [Table.keys])
  exact List.forall_mem_cons.mpr ⟨.scalar trivial, List.forall_mem_singleton.mpr steps⟩

/-! ## Saving and loading -/

/-- What was saved is loaded again. -/
theorem Script.load_of_saved {t : Tree} {p : Path} {s : Script} (saved : Saved t p s.toValue)
    (short : s.Short) : load t p = .ok s := by
  simp only [load, saved.there, saved.readValue (kept_toValue short), ofValue_toValue]

/-- A script with any name and any steps, whose whole numbers do not have too many digits, can be
saved to every writable path and is loaded again from there, the same in name and steps. The same
holds of every script that is read from a value without longer numbers, and of every script that was
loaded from a file: it is loaded, saved, and loaded again as the same script. -/
theorem Script.load_save {t : Tree} {p : Path} (sound : t.Sound) (writable : Writable t p) :
    (∀ s : Script, s.Short → ∃ t', s.save t p = (.ok (), t') ∧ load t' p = .ok s)
      ∧ (∀ v s, v.Short → ofValue v = .ok s → ∃ t', s.save t p = (.ok (), t') ∧ load t' p = .ok s)
      ∧ ∀ t₀ p₀ s, load t₀ p₀ = .ok s → ∃ t', s.save t p = (.ok (), t') ∧ load t' p = .ok s := by
  have again (s : Script) (short : s.Short) :
      ∃ t', s.save t p = (.ok (), t') ∧ load t' p = .ok s := by
    obtain ⟨t', done, saved⟩ := saveValue_of_writable sound writable s.toValue
    exact ⟨t', done, load_of_saved saved short⟩
  exact ⟨again, fun v s short read => again s (short_of_ofValue short read),
    fun t₀ p₀ s loaded => again s (short_of_load loaded)⟩

/-- A script that types a text with quotes and the end of a line, and has no list of keys. -/
def quotingScript : Script :=
  ⟨"Say \"hi\"", [⟨true, false, .keyboard ⟨.typeText, "\"hi\" \\ ü\n", "enter", none, 10⟩⟩]⟩

/-- A script written carelessly: a number for the name, a tag in capitals, and texts for the rest. -/
def carelessValue : Value :=
  .object [("name", .int 5), ("actions", .list [.object [("type", .text " WAIT "),
    ("data", .object [("milliseconds", .text "12"), ("enabled", .text "no")])]])]

/-- The script that is read from it. -/
def carelessScript : Script := ⟨"5", [⟨false, false, .wait ⟨.fixedTime, 12, "", 30⟩⟩]⟩

/-- Two scripts are saved in a new folder of an empty tree and loaded again. -/
theorem Script.load_save_newFolder :
    (∃ t', quotingScript.save ⟨[], []⟩ (Path.ofString "a/s.json") = (.ok (), t')
        ∧ load t' (Path.ofString "a/s.json") = .ok quotingScript)
      ∧ ofValue carelessValue = .ok carelessScript
      ∧ ∃ t', carelessScript.save ⟨[], []⟩ (Path.ofString "a/s.json") = (.ok (), t')
        ∧ load t' (Path.ofString "a/s.json") = .ok carelessScript := by
  have sound : (Tree.mk [] []).Sound := ⟨by simp, rfl⟩
  have writable : Writable ⟨[], []⟩ (Path.ofString "a/s.json") := by
    constructor <;> decide +kernel
  have short : quotingScript.Short := by
    refine List.forall_mem_singleton.mpr ?_
    simp [Action.Short, Action.fields, Keyboard.fields, Value.short_of_lt]
  have shortValue : carelessValue.Short := by
    have data : (Value.object [("milliseconds", .text "12"), ("enabled", .text "no")]).Short :=
      .object (by simp)
    have entry : (Value.object [("type", .text " WAIT "), ("data", .object [("milliseconds",
        .text "12"), ("enabled", .text "no")])]).Short := .object (by simp [data])
    refine .object (List.forall_mem_cons.mpr ⟨Value.short_of_lt (by decide), ?_⟩)
    exact List.forall_mem_singleton.mpr (.list (List.forall_mem_singleton.mpr entry))
  have read : ofValue carelessValue = .ok carelessScript := by decide +kernel
  exact ⟨(load_save sound writable).1 _ short, read,
    (load_save sound writable).2.1 _ _ shortValue read⟩

end Deskwork
