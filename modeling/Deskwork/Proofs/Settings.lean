/-
# Loading the Preferences

What becomes of a file of preferences, whatever it holds. The numbers of an object are converted in
turn, and each may suit its field, be unfit or be stray: of a type that is no number, or too large. A
file that suits is left alone, and one that is unfit is put aside, where that is possible
(`Settings.putAside_of_file`). A stray number is not expected, and the file is not loaded at all. The
main statement is `Settings.load_of_file`.
-/
import Deskwork.Proofs.Files.Moving
import Deskwork.Proofs.Results
import Deskwork.Settings

namespace Deskwork

open Deskwork.Number Deskwork.Files Deskwork.Text

/-! ## Files of values -/

namespace Files

/-- The value that the contents of a file write. -/
def valueIn (bytes : Bytes) : Except Unreadable Value :=
  match decode bytes with
  | .error f => .error (.file (.badText f))
  | .ok s => (Json.read (String.ofList (unifyNewlines s.toList))).mapError .json

variable {t : Tree} {p : Path} {bytes : Bytes}

/-- The value that a file holds is that of its contents. -/
theorem readValue_of_readBytes (h : readBytes t p = .ok bytes) : readValue t p = valueIn bytes := by
  simp only [readValue, readText, h, valueIn, bind, Except.bind]
  cases decode bytes <;> rfl

namespace Path

/-- The path under which an unusable file is kept. -/
def aside (p : Path) : Path := p.rename (p.stem ++ ".bak")

/-- Such a path lies in the folder of the file. -/
@[simp]
theorem parent_aside (p : Path) : p.aside.parent = p.parent := p.parent_rename _

@[simp]
theorem name_aside (p : Path) : p.aside.name = p.stem ++ ".bak" := p.name_rename _

theorem name_aside_ne_empty (p : Path) : p.aside.name ≠ "" := by simp

theorem name_aside_ne_dots (p : Path) : p.aside.name ≠ ".." := by
  intro h
  have length := congrArg (fun s : String => s.toList.length) h
  simp at length

/-- The stem of a name is its front. -/
theorem stem_isPrefix (p : Path) : p.stem.toList <+: p.name.toList := by
  unfold stem cutName
  dsimp only
  split
  · exact List.prefix_refl _
  · rw [String.toList_ofList]
    exact List.take_prefix _ _

/-- A path under which a file is kept holds no null character when that of the file does not. -/
theorem hasNull_aside {p : Path} (named : p.name ≠ "") (h : p.hasNull = false) :
    p.aside.hasNull = false := by
  rw [hasNull, parts_eq named] at h
  rw [hasNull, parts_eq p.name_aside_ne_empty, parent_aside, name_aside]
  simp only [List.any_append, List.any_cons, List.any_nil, Bool.or_false, Bool.or_eq_false_iff] at h ⊢
  refine ⟨h.1, ?_⟩
  rw [← Bool.not_eq_true, List.contains_iff_mem, String.toList_append, List.mem_append]
  rintro (mem | mem)
  · have there := List.contains_iff_mem.mpr ((stem_isPrefix p).subset mem)
    rw [h.2] at there
    cases there
  · exact absurd mem (by decide)

end Path

end Files

namespace Settings

/-! ## How values fit -/

/-- How a value fits a field for a number. -/
inductive Fit where
  | suits
  /-- It is a text that writes no number, or no number at all. -/
  | unfit
  /-- It has no type for numbers, or it is too large. -/
  | stray
  deriving DecidableEq, Repr

namespace Fit

/-- How several values fit: like the first one that does not suit. -/
def first : List Fit → Fit
  | [] => .suits
  | .suits :: rest => first rest
  | fit :: _ => fit

/-- What can be read or else is unfit. -/
def read (b : Bool) : Fit := if b then .suits else .unfit

/-- How a value fits a field for a floating-point number. -/
def float : Value → Fit
  | .scalar (.bool _) | .scalar (.float _) => .suits
  | .scalar (.int n) => if (ofInt? n).isOk then .suits else .stray
  | .scalar (.text s) => read (readFloat s).isOk
  | _ => .stray

/-- How a value fits a field for a whole number. -/
def whole : Value → Fit
  | .scalar (.bool _) | .scalar (.int _) => .suits
  | .scalar (.float x) =>
    match exactValue x with
    | .finite _ => .suits
    | .nan => .unfit
    | .infinite _ => .stray
  | .scalar (.text s) => read (readInt s).isOk
  | _ => .stray

/-- How a field of an object fits; a missing or empty one has a standard value. -/
def field (fit : Value → Fit) (fields : List (String × Value)) (name : String) : Fit :=
  match filled? fields name with
  | some v => fit v
  | none => .suits

/-- How an object fits the preferences; every value suits the fields that are no numbers. -/
def object (fields : List (String × Value)) : Fit :=
  first [field float fields "scheduler_check_interval_seconds",
    field whole fields "max_history", field whole fields "log_max_entries"]

/-- How the contents of a file fit the preferences. -/
def contents (bytes : Bytes) : Fit :=
  match valueIn bytes with
  | .ok (.object fields) => object fields
  | _ => .unfit

end Fit

/-- A fault of a type, or of a number that is too large. -/
def isStray (f : Fault) : Bool :=
  f.isType || f.title == "OverflowError"

/-- Such a fault is not expected of a file of preferences. -/
theorem not_expected_of_isStray {f : Fault} (stray : isStray f = true) :
    (f.isValue || f.isSystem) = false := by
  have title : f.title = "TypeError" ∨ f.title = "OverflowError" := by
    simpa [isStray, Fault.isType] using stray
  cases f
  case foreign why =>
    have name : why.name = "TypeError" ∨ why.name = "OverflowError" := title
    rcases name with name | name
    all_goals simp [Fault.isValue, Fault.isSystem, Foreign.isValue, Foreign.isSystem, name]
  case file why =>
    cases why with
    | refused why path target =>
      cases why <;> simp [Fault.title, Fault.fileTitle, Fault.refusalTitle] at title
    | _ => simp [Fault.title, Fault.fileTitle] at title
  all_goals
    rcases title with title | title
    all_goals simp [Fault.isValue, Fault.isSystem, title]

/-- The result of a conversion, according to how the value fits. -/
inductive FitsBy {α : Type} : Except Fault α → Fit → Prop where
  /-- It is converted. -/
  | suits (a : α) : FitsBy (.ok a) .suits
  /-- It has a wrong value. -/
  | unfit {f : Fault} (value : f.isValue = true) : FitsBy (.error f) .unfit
  /-- It has a wrong type, or is too large. -/
  | stray {f : Fault} (stray : isStray f = true) : FitsBy (.error f) .stray

/-- What can be read suits. -/
theorem fitsBy_read {ε α : Type} {r : Except ε α} {g : ε → Fault} (value : ∀ f, (g f).isValue = true) :
    FitsBy (r.mapError g) (.read r.isOk) := by
  cases r with
  | ok a => exact .suits a
  | error f => exact .unfit (value f)

theorem floatOf_fits (v : Value) : FitsBy (Convert.floatOf v) (.float v) := by
  match v with
  | .scalar (.bool b) => exact .suits _
  | .scalar (.float x) => exact .suits x
  | .scalar (.text s) => exact fitsBy_read fun _ => rfl
  | .scalar .null | .list _ | .object _ => exact .stray rfl
  | .scalar (.int n) =>
    simp only [Convert.floatOf, Fit.float, ofInt?]
    split
    · exact .stray rfl
    · exact .suits _

theorem wholeOf_fits (v : Value) : FitsBy (Convert.wholeOf v) (.whole v) := by
  match v with
  | .scalar (.bool b) => exact .suits _
  | .scalar (.int n) => exact .suits n
  | .scalar (.text s) => exact fitsBy_read fun _ => rfl
  | .scalar .null | .list _ | .object _ => exact .stray rfl
  | .scalar (.float x) =>
    simp only [Convert.wholeOf, Fit.whole, truncate?]
    cases exactValue x with
    | finite d => exact .suits _
    | nan => exact .unfit rfl
    | infinite negative => exact .stray rfl

/-- A field is converted, or the standard value is taken, and what follows is done only when it suits. -/
theorem FitsBy.field {α β : Type} {r : Value → Except Fault α} {fit : Value → Fit}
    (converted : ∀ v, FitsBy (r v) (fit v)) (fields : List (String × Value)) (name : String) {other : α}
    {k : α → Except Fault β} {fits : List Fit} (hk : ∀ a, FitsBy (k a) (.first fits)) :
    FitsBy
      (match filled? fields name with
        | some v => r v >>= k
        | none => .ok other >>= k)
      (.first (.field fit fields name :: fits)) := by
  unfold Fit.field
  cases filled? fields name with
  | none => exact hk other
  | some v =>
    have first := converted v
    dsimp only
    generalize r v = result at first
    generalize fit v = own at first
    cases first with
    | suits a => exact hk a
    | unfit value => exact .unfit value
    | stray stray => exact .stray stray

/-- The preferences are read from an object exactly when its numbers suit. -/
theorem ofFields_fits (fields : List (String × Value)) : FitsBy (ofFields fields) (.object fields) := by
  unfold ofFields
  apply FitsBy.field floatOf_fits
  intro interval
  apply FitsBy.field wholeOf_fits
  intro history
  apply FitsBy.field wholeOf_fits
  intro entries
  exact .suits _

/-! ## Files of preferences -/

variable {t : Tree} {p : Path} {a : Place} {bytes : Bytes}

/-- What becomes of an unusable file: it is moved under another name, unless a folder stands there or
the name is too long; then it stays. -/
def PutAside (t t' : Tree) (p : Path) (bytes : Bytes) : Prop :=
  (isFolder t p.aside = .ok false →
      ∃ a b, t.locate p = .ok a ∧ t.locate p.aside = .ok b ∧ Moved t t' a b bytes)
    ∧ (isFolder t p.aside ≠ .ok false → t' = t)

/-- An unusable file is put aside where that is possible, and the preferences are the standard ones in
any case. -/
theorem putAside_of_file (sound : t.Sound) (noNull : p.hasNull = false) (named : p.name ≠ "")
    (found : t.find p = .ok (a, .file bytes)) :
    (putAside t p).1 = .ok standard ∧ PutAside t (putAside t p).2 p bytes := by
  obtain ⟨noDots, d, above, takes, rfl⟩ := takes_of_file sound named found
  have noNulls : p.hasNull = false ∧ p.aside.hasNull = false :=
    ⟨noNull, Path.hasNull_aside named noNull⟩
  have aboveAside : t.Above p.aside d := above.rename _
  have path : asidePath p = .ok p.aside := if_neg named
  simp only [putAside, path]
  by_cases free : isFolder t p.aside = .ok false
  · have target := takes_of_isFolder noNulls.2 p.name_aside_ne_empty p.name_aside_ne_dots aboveAside free
    obtain ⟨t', replaced, moved⟩ := replace_of_takes sound noNulls ⟨named, p.name_aside_ne_empty⟩
      p.name_aside_ne_dots found aboveAside target
    rw [replaced]
    refine ⟨rfl, ?_, fun taken => absurd free taken⟩
    intro _
    exact ⟨_, _, takes.located, target.located, moved⟩
  · -- a file whose own name is the one under which it would be kept could be kept there
    have apart : d ++ [p.name] ≠ d ++ [p.aside.name] := by
      intro same
      have name : p.aside.name = p.name := by simpa using same.symm
      have own : p.aside = p := by
        have parts : p.aside.parts = p.parts := by
          rw [Path.parts_eq p.name_aside_ne_empty, Path.parent_aside, name, ← Path.parts_eq named]
        rw [Files.Path.mk.injEq]
        exact ⟨rfl, parts⟩
      rw [own] at free
      exact free takes.isFolder
    cases replaced : replace t p p.aside with
    | ok t' =>
      obtain ⟨-, -, target⟩ := takes_of_replace p.name_aside_ne_empty aboveAside found apart replaced
      exact absurd target.isFolder free
    | error f =>
      obtain ⟨why, source, target, rfl⟩ := refused_of_replace noNulls replaced
      exact ⟨rfl, fun free' => absurd free' free, fun _ => rfl⟩

/-- What is read from a file, according to how its contents fit. -/
inductive Reads (bytes : Bytes) : Contents → Fit → Prop where
  /-- The preferences of an object. -/
  | suits {fields : List (String × Value)} {s : Settings}
      (object : valueIn bytes = .ok (.object fields)) (read : ofFields fields = .ok s) :
      Reads bytes (.settings s) .suits
  /-- Nothing that could be used. -/
  | unfit : Reads bytes .unusable .unfit
  /-- A fault of a number. -/
  | stray {f : Fault} (stray : isStray f = true) : Reads bytes (.fault f) .stray

/-- The contents of a file decide about what is read from it. -/
theorem readFile_reads (there : readBytes t p = .ok bytes) :
    Reads bytes (readFile t p) (.contents bytes) := by
  unfold readFile Fit.contents
  rw [readValue_of_readBytes there]
  cases value : valueIn bytes with
  | error why => exact .unfit
  | ok v =>
    cases v with
    | scalar s => exact .unfit
    | list items => exact .unfit
    | object fields =>
      have fits := ofFields_fits fields
      dsimp only
      generalize read : ofFields fields = r at fits ⊢
      generalize Fit.object fields = fit at fits ⊢
      cases fits with
      | suits s => exact .suits value read
      | unfit wrong =>
        dsimp only
        rw [if_pos (by simp [wrong])]
        exact .unfit
      | stray stray =>
        dsimp only
        rw [if_neg (by simp [not_expected_of_isStray stray])]
        exact .stray stray

/-- An existing file of preferences, whatever it holds, is loaded exactly when no number in it is stray
before one that is unfit. What suits is read as it stands, and the file is left alone. What is unfit
gives the standard preferences, and the file is moved with its contents to the name under which unusable
files are kept; nothing else changes, and it stays where that name is too long or a folder has it. A
stray number is a fault of its type or of its size, and the file is left alone. -/
theorem load_of_file (t : Tree) (path : String) (sound : t.Sound) {bytes : Bytes}
    (there : readBytes t (Path.ofString path) = .ok bytes) :
    ((∃ s, (load t (Path.ofString path)).1 = .ok s) ↔ Fit.contents bytes ≠ .stray)
      ∧ (Fit.contents bytes = .suits → ∃ fields s, valueIn bytes = .ok (.object fields)
          ∧ ofFields fields = .ok s ∧ load t (Path.ofString path) = (.ok s, t))
      ∧ (Fit.contents bytes = .unfit → (load t (Path.ofString path)).1 = .ok standard
          ∧ PutAside t (load t (Path.ofString path)).2 (Path.ofString path) bytes)
      ∧ (Fit.contents bytes = .stray →
          ∃ f, isStray f = true ∧ load t (Path.ofString path) = (.error f, t)) := by
  obtain ⟨noNull, a, found⟩ := readBytes_eq_ok_iff.mp there
  have exists_ : exists? t (Path.ofString path) = .ok true := by
    simp [exists?, ask, noNull, found]
  have reads := readFile_reads there
  unfold load
  rw [exists_]
  generalize readFile t (Path.ofString path) = contents at reads ⊢
  generalize Fit.contents bytes = fit at reads ⊢
  cases reads with
  | suits object read => simp [object, read]
  | unfit =>
    obtain ⟨result, aside⟩ :=
      putAside_of_file sound noNull (name_ne_empty_of_file sound found) found
    simp [result, aside]
  | stray stray => simp [stray]

/-- A file of preferences in the working folder, which is the root. -/
def kept (contents : String) : Tree := ⟨[(["settings.json"], .file (encode contents))], []⟩

/-- A file in the root stands in a folder. -/
theorem sound_kept (contents : String) : (kept contents).Sound := by
  constructor
  · intro e mem
    obtain rfl := List.mem_singleton.mp mem
    rfl
  · rfl

/-- Preferences with room for endlessly many records. -/
def endless : String := "\x7b\"max_history\": 1e999\x7d"

/-- Preferences with room for endlessly many records are not loaded. -/
theorem load_of_file_endless :
    (kept endless).Sound
      ∧ readBytes (kept endless) (Path.ofString "settings.json") = .ok (encode endless)
      ∧ ¬ ∃ s, (load (kept endless) (Path.ofString "settings.json")).1 = .ok s := by
  have loaded := load_of_file (kept endless) "settings.json" (sound_kept endless) rfl
  have stray : Fit.contents (encode endless) = .stray := by decide +kernel
  refine ⟨sound_kept endless, rfl, ?_⟩
  intro returns
  exact loaded.1.mp returns stray

/-- A file that holds no value is put aside as it is. -/
example : (load (kept "not json") (Path.ofString "settings.json")).2
    = ⟨[(["settings.bak"], .file (encode "not json"))], []⟩ := by decide +kernel

end Settings

end Deskwork
