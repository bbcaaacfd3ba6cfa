/-
# Tokens Between Literals

A text in which names stand between literals, each as a token (`woven`). The names are tried one after the
other, over a text that is already changed; when a rare character, one that is in no name, keeps the tokens
apart, what comes out is what replacing all tokens at once would give (`Desk.expand_woven`). The argument
takes the text as a list of pieces: in such a text a percent sign that ends a token never begins another one
(`Apart.mem_of_render`), and replacing the tokens of one name puts literals into their places, which leaves
the pieces apart (`Apart.settle`).
-/
import Deskwork.Proofs.Tables
import Deskwork.Proofs.Template.Values

namespace Deskwork

open Deskwork.Text Deskwork.Template

namespace Template

/-! ## Pieces -/

/-- A piece of a text with tokens. -/
inductive Piece where
  | literal (s : String)
  | token (name : String)
  deriving DecidableEq, Repr

namespace Piece

/-- A piece as it is written. -/
def text : Piece → String
  | literal s => s
  | token name => Template.token name

/-- A piece with the token of a name replaced by the value of the name. -/
def settle (values : List (String × String)) : Piece → Piece
  | literal s => literal s
  | token name =>
    match Table.get? values name with
    | some value => literal value
    | none => token name

theorem settle_nil : settle [] = id := by
  funext p
  cases p <;> rfl

/-- The names are looked up in order. -/
theorem settle_cons (v : String × String) (values : List (String × String)) (p : Piece) :
    settle (v :: values) p = settle values (settle [v] p) := by
  cases p with
  | literal s => rfl
  | token name =>
    simp only [settle, Table.get?]
    by_cases same : v.1 = name
    · rw [if_pos same, if_pos same]
    · rw [if_neg same, if_neg same]

/-- A piece whose token was replaced has no token to be replaced. -/
theorem settle_settle (values : List (String × String)) (p : Piece) :
    settle values (settle values p) = settle values p := by
  cases p with
  | literal s => rfl
  | token name =>
    rw [settle]
    cases found : Table.get? values name with
    | some value => rfl
    | none => rw [settle, found]

end Piece

/-- The characters of the pieces. -/
def render (ps : List Piece) : List Char :=
  ps.flatMap fun p => p.text.toList

theorem render_nil : render [] = [] := rfl

theorem render_literal (s : String) (ps : List Piece) :
    render (.literal s :: ps) = s.toList ++ render ps :=
  List.flatMap_cons

theorem render_token (name : String) (ps : List Piece) :
    render (.token name :: ps) = '%' :: (name.toList ++ '%' :: render ps) := by
  simp only [render, List.flatMap_cons, Piece.text, toList_token, List.cons_append, List.append_assoc,
    List.nil_append]

/-! ## Pieces that are kept apart -/

variable {c : Char} {seen : Bool} {ps : List Piece} {values : List (String × String)}

/-- Only tokens have percent signs, and between a token and the one before it the character occurs; it
already did when it was seen. -/
def Apart (c : Char) : Bool → List Piece → Prop
  | _, [] => True
  | seen, .literal s :: rest => '%' ∉ s.toList ∧ Apart c (seen || s.toList.contains c) rest
  | seen, .token name :: rest => '%' ∉ name.toList ∧ seen = true ∧ Apart c false rest

/-- It does no harm to have seen the character. -/
theorem Apart.mono {seen' : Bool} (h : Apart c seen ps) (more : seen = true → seen' = true) :
    Apart c seen' ps := by
  induction ps generalizing seen seen' with
  | nil => trivial
  | cons p rest ih =>
    cases p with
    | literal s =>
      refine ⟨h.1, ih h.2 fun either => ?_⟩
      rw [Bool.or_eq_true] at either ⊢
      exact either.imp_left more
    | token name => exact ⟨h.1, more h.2.1, h.2.2⟩

/-- Where the character was not seen yet, it occurs before the next percent sign. -/
theorem Apart.mem_of_render {front rest : List Char} (h : Apart c false ps) (unmarked : '%' ∉ front)
    (whole : render ps = front ++ '%' :: rest) : c ∈ front := by
  induction ps generalizing front with
  | nil => simp [render_nil] at whole
  | cons p ps ih =>
    cases p with
    | token name => cases h.2.1
    | literal s =>
      obtain ⟨plain, later⟩ := h
      rw [render_literal] at whole
      -- the literal has no percent sign, so it ends before the one that is looked for
      obtain ⟨front', rfl⟩ := prefix_of_append_cons plain whole.symm
      rw [List.append_assoc] at whole
      have after : render ps = front' ++ '%' :: rest := List.append_cancel_left whole
      rw [List.mem_append]
      by_cases met : c ∈ s.toList
      · exact .inl met
      · rw [Bool.false_or, List.contains_eq_mem, decide_eq_false met] at later
        exact .inr (ih later (fun mem => unmarked (List.mem_append_right _ mem)) after)

/-- Pieces stay apart when tokens are replaced by values without percent signs. -/
theorem Apart.settle (unmarked : Unmarked values) (h : Apart c seen ps) :
    Apart c seen (ps.map (Piece.settle values)) := by
  induction ps generalizing seen with
  | nil => trivial
  | cons p rest ih =>
    cases p with
    | literal s => exact ⟨h.1, ih h.2⟩
    | token name =>
      obtain ⟨plain, rfl, later⟩ := h
      rw [List.map_cons, Piece.settle]
      cases found : Table.get? values name with
      | some value =>
        exact ⟨(unmarked _ (Table.mem_of_get? found)).2, (ih later).mono fun _ => rfl⟩
      | none => exact ⟨plain, rfl, ih later⟩

/-! ## Replacing tokens -/

/-- What stands before the first percent sign is determined. -/
theorem eq_of_append_percent {a b rest rest' : List Char} (plain : '%' ∉ a) (plain' : '%' ∉ b)
    (h : a ++ '%' :: rest = b ++ '%' :: rest') : a = b := by
  have left : a <+: b := prefix_of_append_cons plain h.symm
  have right : b <+: a := prefix_of_append_cons plain' h
  exact left.sublist.antisymm right.sublist

/-- Replacing the token of a rare name replaces its pieces. -/
theorem replaceAll_render {name value : String} (unmarked : '%' ∉ name.toList) (rare : c ∉ name.toList)
    (h : Apart c seen ps) :
    replaceAll (token name).toList value.toList (render ps)
      = render (ps.map (Piece.settle [(name, value)])) := by
  rw [toList_token]
  induction ps generalizing seen with
  | nil => exact replaceAll_nil _ _
  | cons p rest ih =>
    cases p with
    | literal s =>
      rw [render_literal, List.map_cons, Piece.settle, render_literal,
        replaceAll_append_of_not_mem h.1, ih h.2]
    | token other =>
      obtain ⟨plain, -, later⟩ := h
      rw [render_token, List.map_cons, Piece.settle, Table.get?, Table.get?]
      by_cases same : name = other
      · subst same
        have front : '%' :: (name.toList ++ '%' :: render rest)
            = '%' :: (name.toList ++ ['%']) ++ render rest := by simp
        rw [if_pos rfl, front, replaceAll_append (by simp), ih later, render_literal]
      · -- the percent sign in front of another name begins no token of this one, and neither does the
        -- percent sign behind it, after which the rare character comes before the next percent sign
        have opening : dropStart? ('%' :: (name.toList ++ ['%']))
            ('%' :: (other.toList ++ '%' :: render rest)) = none := by
          rw [dropStart?_eq_none_iff]
          rintro ⟨tail, begins⟩
          have both : name.toList ++ '%' :: tail = other.toList ++ '%' :: render rest := by
            simpa using begins
          exact same (String.toList_inj.mp (eq_of_append_percent unmarked plain both))
        have closing : dropStart? ('%' :: (name.toList ++ ['%'])) ('%' :: render rest) = none := by
          rw [dropStart?_eq_none_iff]
          rintro ⟨tail, begins⟩
          have after : render rest = name.toList ++ '%' :: tail := by simpa using begins.symm
          exact rare (later.mem_of_render unmarked after)
        rw [if_neg same, replaceAll_cons_of_none opening, replaceAll_append_of_not_mem plain,
          replaceAll_cons_of_none closing, ih later, render_token]

/-- Replacing the tokens of rare names, one name after the other, replaces their pieces. -/
theorem fillAll_render (unmarked : Unmarked values) (rare : ∀ v ∈ values, c ∉ v.1.toList)
    (h : Apart c seen ps) :
    fillAll (String.ofList (render ps)) values
      = String.ofList (render (ps.map (Piece.settle values))) := by
  induction values generalizing ps with
  | nil => rw [Piece.settle_nil, List.map_id, fillAll_nil]
  | cons v rest ih =>
    obtain ⟨plain, others⟩ := List.forall_mem_cons.mp unmarked
    obtain ⟨first, later⟩ := List.forall_mem_cons.mp rare
    have one : Unmarked [v] := by simpa [Unmarked] using plain
    rw [fillAll_cons, fill, replace, String.toList_ofList, replaceAll_render plain.1 first h,
      ih others later (h.settle one), List.map_map]
    congr 3
    funext p
    exact (Piece.settle_cons v rest p).symm

/-! ## Names between literals -/

/-- A text in which names stand between literals, each name written in the given way. -/
def woven (write : String → String) (first : String) : List (String × String) → String
  | [] => first
  | (name, next) :: rest => first ++ write name ++ woven write next rest

/-- The pieces of a text in which names stand between literals. -/
def pieces (first : String) : List (String × String) → List Piece
  | [] => [.literal first]
  | (name, next) :: rest => .literal first :: .token name :: pieces next rest

variable {first : String} {rest : List (String × String)}

theorem render_pieces (first : String) (rest : List (String × String)) :
    render (pieces first rest) = (woven token first rest).toList := by
  induction rest generalizing first with
  | nil => rw [pieces, render_literal, render_nil, List.append_nil, woven]
  | cons p rest ih =>
    rw [pieces, render_literal, render_token, ih, woven]
    simp [toList_token]

/-- What is written for a name: its value, or its token when it has none. -/
def meaning (values : List (String × String)) (name : String) : String :=
  (Table.get? values name).getD (token name)

/-- With every token replaced, each name is written as what it means. -/
theorem render_settle_pieces (values : List (String × String)) (first : String)
    (rest : List (String × String)) :
    render ((pieces first rest).map (Piece.settle values))
      = (woven (meaning values) first rest).toList := by
  induction rest generalizing first with
  | nil => rw [pieces, List.map_singleton, Piece.settle, render_literal, render_nil, List.append_nil, woven]
  | cons p rest ih =>
    rw [pieces, List.map_cons, List.map_cons, Piece.settle, Piece.settle, render_literal, woven, meaning]
    cases found : Table.get? values p.1 with
    | some value => rw [render_literal, ih]; simp
    | none => rw [render_token, ih]; simp [toList_token]

/-- Neither the literals nor the names have percent signs, and the character occurs in every literal that
stands between two names. -/
structure Spaced (c : Char) (first : String) (rest : List (String × String)) : Prop where
  /-- The first literal has no percent sign. -/
  begins : '%' ∉ first.toList
  /-- The names and the other literals have none. -/
  plain : ∀ p ∈ rest, '%' ∉ p.1.toList ∧ '%' ∉ p.2.toList
  /-- All literals but the first and the last one have the character. -/
  between : ∀ p ∈ rest.dropLast, c ∈ p.2.toList

/-- Literals that have the character keep the pieces apart, the first one when there is a token after it. -/
theorem Spaced.apart (h : Spaced c first rest) (ready : rest = [] ∨ seen = true ∨ c ∈ first.toList) :
    Apart c seen (pieces first rest) := by
  obtain ⟨begins, plain, between⟩ := h
  induction rest generalizing first seen with
  | nil => exact ⟨begins, trivial⟩
  | cons p rest ih =>
    obtain ⟨here, later⟩ := List.forall_mem_cons.mp plain
    have met : (seen || first.toList.contains c) = true := by
      simpa using ready.resolve_left (List.cons_ne_nil _ _)
    refine ⟨begins, here.1, met, ih ?_ here.2 later ?_⟩
    · cases rest with
      | nil => exact .inl rfl
      | cons q rest => exact .inr (.inr (between p List.mem_cons_self))
    · intro q mem
      cases rest with
      | nil => cases mem
      | cons q' rest => exact between q (List.mem_cons_of_mem _ mem)

/-- Replacing the tokens of rare names, one name after the other, is replacing all tokens at once. -/
theorem fillAll_woven (unmarked : Unmarked values) (rare : ∀ v ∈ values, c ∉ v.1.toList)
    (spaced : Spaced c first rest) :
    fillAll (woven token first rest) values = woven (meaning values) first rest := by
  have apart : Apart c true (pieces first rest) := spaced.apart (.inr (.inl rfl))
  have whole := fillAll_render unmarked rare apart
  rwa [render_pieces, render_settle_pieces, String.ofList_toList, String.ofList_toList] at whole

/-- Replacing them a second time changes nothing. -/
theorem fillAll_fillAll_woven (unmarked : Unmarked values) (rare : ∀ v ∈ values, c ∉ v.1.toList)
    (spaced : Spaced c first rest) :
    fillAll (fillAll (woven token first rest) values) values
      = fillAll (woven token first rest) values := by
  have apart : Apart c true (pieces first rest) := spaced.apart (.inr (.inl rfl))
  have settled := fillAll_render unmarked rare (apart.settle unmarked)
  rw [List.map_map, show Piece.settle values ∘ Piece.settle values = Piece.settle values from
    funext (Piece.settle_settle values)] at settled
  rw [← String.ofList_toList (s := woven token first rest), ← render_pieces,
    fillAll_render unmarked rare apart, settled]

end Template

/-! ## Expanding at the desk -/

namespace Desk

/-- What is written for a name: the value of the standard name, or else the text of the variable of the
run, or else the custom value, or else the token as it is. -/
def meaning (d : Desk) (bindings : List (String × Scalar)) (user name : String) : String :=
  let standard := Table.get? (Template.standardValues d.machine.wall user d.machine.computer) name
  let own := (Table.get? bindings name).map Scalar.asText
  let custom := Table.get? d.customVariables.1 name
  ((standard.or own).or custom).getD (token name)

/-- The three groups are looked up in order. -/
theorem meaning_values (d : Desk) (bindings : List (String × Scalar)) (user : String) :
    Template.meaning (d.values bindings user) = d.meaning bindings user := by
  funext name
  rw [Template.meaning, meaning, values, Table.get?_append, Table.get?_append, Table.get?_map]

/-- When no name and no value has a percent sign, and a character that is in no name occurs in every
literal between two tokens, expanding replaces all tokens at once and leaves the literals as they are. -/
theorem expand_woven {d : Desk} {bindings : List (String × Scalar)} {user : String} {c : Char}
    {first : String} {rest : List (String × String)} (known : d.userName = .ok user)
    (unmarked : Unmarked (d.values bindings user)) (rare : ∀ v ∈ d.values bindings user, c ∉ v.1.toList)
    (spaced : Spaced c first rest) :
    (d.expand bindings (woven token first rest)).1
      = .ok (woven (d.meaning bindings user) first rest) := by
  rw [fst_expand known, fillAll_woven unmarked rare spaced, meaning_values]

/-- A blank desk with custom variables. -/
def withCustom (custom : List (String × String)) : Desk :=
  { blank with expander := .new (.given custom) true }

/-- A standard name hides a variable of the run, which hides a custom variable. -/
theorem expand_woven_hidden :
    let d := withCustom [("who", "custom"), ("dept", "sales")]
    let own := [("user", .text "own"), ("who", .int 7)]
    (d.userName = .ok "alice" ∧ Unmarked (d.values own "alice")
      ∧ ∀ v ∈ d.values own "alice", '-' ∉ v.1.toList)
      ∧ (d.expand own "a%user%-%who%- %dept%-%nope%").1 = .ok "aalice-7- sales-%nope%" := by
  intro d own
  have known : d.userName = .ok "alice" := rfl
  have unmarked : Unmarked (d.values own "alice") :=
    unmarked_values_iff.mpr ⟨by decide, by decide +kernel, by decide⟩
  have rare : ∀ v ∈ d.values own "alice", '-' ∉ v.1.toList := by decide +kernel
  have spaced : Spaced '-' "a" [("user", "-"), ("who", "- "), ("dept", "-"), ("nope", "")] :=
    ⟨by decide, by decide, by decide⟩
  have written := expand_woven known unmarked rare spaced
  exact ⟨⟨known, unmarked, rare⟩, written.trans (congrArg _ (by decide +kernel))⟩

end Desk

end Deskwork
