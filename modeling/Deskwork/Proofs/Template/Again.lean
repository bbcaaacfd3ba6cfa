/-
# Expanding Again

Expanding what was expanded changes nothing exactly when no token of a name was left in it, for every token
that is replaced takes its percent signs away (`Template.fillAll_eq_self_iff`). A token is left when a value,
together with what stands around it, spells a name that was tried already. Where no value is a part of such a
name this cannot happen (`Template.settled_fillAll`), and neither can it where a rare character keeps the
tokens apart; `Desk.expand_again_iff` says all this of a desk.
-/
import Deskwork.Proofs.Template.Weaving

namespace Deskwork

open Deskwork.Text Deskwork.Template

namespace Template

variable {text : String} {values : List (String × String)}

/-! ## Percent signs -/

/-- Nothing brings in a percent sign. -/
theorem count_fillAll_le (unmarked : Unmarked values) (text : String) :
    (fillAll text values).toList.count '%' ≤ text.toList.count '%' := by
  induction values generalizing text with
  | nil => rfl
  | cons v rest ih =>
    obtain ⟨⟨-, plain⟩, others⟩ := List.forall_mem_cons.mp unmarked
    refine (ih others (fill text v.1 v.2)).trans ?_
    rw [fill, replace, String.toList_ofList]
    exact count_replaceAll_le plain text.toList

/-- Where there is a token of a name, percent signs are taken away. -/
theorem count_fillAll_lt (unmarked : Unmarked values) (left : ¬ Settled values text) :
    (fillAll text values).toList.count '%' < text.toList.count '%' := by
  induction values generalizing text with
  | nil => exact absurd (List.forall_mem_nil _) left
  | cons v rest ih =>
    obtain ⟨⟨-, plain⟩, others⟩ := List.forall_mem_cons.mp unmarked
    rw [fillAll_cons]
    cases occurs : holds text (token v.1) with
    | true =>
      refine (count_fillAll_le others (fill text v.1 v.2)).trans_lt ?_
      rw [fill, replace, String.toList_ofList]
      exact count_replaceAll_lt plain (by simp [toList_token]) (holds_iff.mp occurs)
    | false =>
      rw [fill_eq_self occurs]
      exact ih others fun settled => left (List.forall_mem_cons.mpr ⟨occurs, settled⟩)

/-- A text stays as it is exactly when it holds no token. -/
theorem fillAll_eq_self_iff (unmarked : Unmarked values) :
    fillAll text values = text ↔ Settled values text := by
  refine ⟨fun same => ?_, fillAll_eq_self⟩
  by_contra left
  have fewer := count_fillAll_lt unmarked left
  rw [same] at fewer
  exact lt_irrefl _ fewer

/-! ## Tokens that are formed -/

section Formed

variable {pat value other cs : List Char}

/-- What stands before a percent sign stood there before, or a value is a part of it. -/
theorem infix_or_prefix_of_replaceAll (nonempty : pat ≠ []) (plain : '%' ∉ value)
    (h : other ++ ['%'] <+: replaceAll pat value cs) :
    value <:+: other ∨ other ++ ['%'] <+: cs := by
  fun_induction replaceAll pat value cs generalizing other with
  | case1 => exact .inr h
  | case2 c rest after found empty ih => exact absurd empty nonempty
  | case3 c rest after found _ ih =>
    obtain ⟨tail, whole⟩ := h
    rw [List.append_assoc, List.singleton_append] at whole
    exact .inl (prefix_of_append_cons plain whole).isInfix
  | case4 c rest absent ih =>
    cases other with
    | nil =>
      rw [List.nil_append, List.cons_prefix_cons] at h ⊢
      exact .inr ⟨h.1, List.nil_prefix⟩
    | cons x other =>
      rw [List.cons_append, List.cons_prefix_cons] at h ⊢
      exact (ih h.2).imp (fun part => part.trans (List.suffix_cons x other).isInfix) (.intro h.1)

/-- A token that stands in the text after the tokens of a name were replaced is that of another name and
stood there before, or the value is a part of its name. -/
theorem infix_of_infix_replaceAll {name : List Char} (plain : '%' ∉ value)
    (h : '%' :: (other ++ ['%']) <:+: replaceAll ('%' :: (name ++ ['%'])) value cs) :
    value <:+: other ∨ other ≠ name ∧ '%' :: (other ++ ['%']) <:+: cs := by
  fun_induction replaceAll ('%' :: (name ++ ['%'])) value cs with
  | case1 => simp at h
  | case2 c rest after found empty ih => cases empty
  | case3 c rest after found _ ih =>
    rw [eq_append_of_dropStart? found]
    exact (ih (infix_of_infix_append plain h)).imp_right
      (.imp_right fun part => part.trans (List.suffix_append _ _).isInfix)
  | case4 c rest absent ih =>
    rw [List.infix_cons_iff] at h
    -- either the token begins at a percent sign that stays, or it stands further on
    rcases h with here | later
    · obtain ⟨rfl, front⟩ := List.cons_prefix_cons.mp here
      rcases infix_or_prefix_of_replaceAll (by simp) plain front with part | before
      · exact .inl part
      · have begins : '%' :: (other ++ ['%']) <+: '%' :: rest := List.cons_prefix_cons.mpr ⟨rfl, before⟩
        refine .inr ⟨?_, begins.isInfix⟩
        rintro rfl
        exact dropStart?_eq_none_iff.mp absent begins
    · exact (ih later).imp_right (.imp_right List.infix_cons)

end Formed

/-- When no part of a name is the value that is put in, a token of the name that stands in the text stood
there before and is not the one that was replaced. -/
theorem holds_of_holds_fill {name value other : String} (plain : '%' ∉ value.toList)
    (foreign : holds other value = false) (h : holds (fill text name value) (token other) = true) :
    other ≠ name ∧ holds text (token other) = true := by
  rw [holds_iff, toList_token] at h ⊢
  rw [fill, replace, String.toList_ofList, toList_token] at h
  obtain ⟨differ, before⟩ :=
    (infix_of_infix_replaceAll plain h).resolve_left (holds_eq_false_iff.mp foreign)
  exact ⟨fun same => differ (congrArg String.toList same), before⟩

/-! ## Values that form no token -/

/-- No value is a part of its own name or of a name that is tried before. -/
def Inert (values : List (String × String)) : Prop :=
  (∀ v ∈ values, holds v.1 v.2 = false) ∧ values.Pairwise fun v w => holds v.1 w.2 = false

instance (values : List (String × String)) : Decidable (Inert values) :=
  inferInstanceAs (Decidable (_ ∧ _))

/-- A token that does not stand in a text is not formed by values that are no parts of its name. -/
theorem holds_fillAll {name : String} (unmarked : Unmarked values)
    (foreign : ∀ v ∈ values, holds name v.2 = false) (absent : holds text (token name) = false) :
    holds (fillAll text values) (token name) = false := by
  induction values generalizing text with
  | nil => exact absent
  | cons v rest ih =>
    obtain ⟨⟨-, plain⟩, others⟩ := List.forall_mem_cons.mp unmarked
    obtain ⟨first, later⟩ := List.forall_mem_cons.mp foreign
    refine ih others later ?_
    by_contra formed
    have before := (holds_of_holds_fill plain first (Bool.not_eq_false _ ▸ formed)).2
    rw [absent] at before
    cases before

/-- Such values leave no token. -/
theorem settled_fillAll (unmarked : Unmarked values) (inert : Inert values) (text : String) :
    Settled values (fillAll text values) := by
  induction values generalizing text with
  | nil => exact List.forall_mem_nil _
  | cons v rest ih =>
    obtain ⟨⟨-, plain⟩, others⟩ := List.forall_mem_cons.mp unmarked
    obtain ⟨foreign, pairs⟩ := inert
    obtain ⟨own, foreign⟩ := List.forall_mem_cons.mp foreign
    obtain ⟨first, pairs⟩ := List.pairwise_cons.mp pairs
    -- the tokens of the first name are gone, and the later values bring none back
    have gone : holds (fill text v.1 v.2) (token v.1) = false := by
      by_contra left
      exact (holds_of_holds_fill plain own (Bool.not_eq_false _ ▸ left)).1 rfl
    rw [fillAll_cons]
    exact List.forall_mem_cons.mpr ⟨holds_fillAll others first gone, ih others ⟨foreign, pairs⟩ _⟩

/-! ## Tokens that are kept apart -/

/-- In the text names stand between literals, and a character that is in none of the names that have values
occurs in every literal between two tokens. -/
def KeptApart (values : List (String × String)) (text : String) : Prop :=
  ∃ (c : Char) (first : String) (rest : List (String × String)), text = woven token first rest
    ∧ (∀ v ∈ values, c ∉ v.1.toList) ∧ Spaced c first rest

end Template

/-! ## Expanding at the desk -/

namespace Desk

variable {bindings : List (String × Scalar)} {user : String}

/-- When no name and no value has a percent sign, what was expanded stays as it is at a second expansion
exactly when it holds no token. It holds none when no value is a part of its own name or of a name that is
tried before, and none when the tokens of the text were kept apart. -/
theorem expand_again_iff (d : Desk) (text : String) (known : d.userName = .ok user)
    (unmarked : Unmarked (d.values bindings user)) :
    ∃ once d', d.expand bindings text = (.ok once, d')
      ∧ ((d'.expand bindings once).1 = .ok once ↔ Settled (d.values bindings user) once)
      ∧ (Inert (d.values bindings user) ∨ KeptApart (d.values bindings user) text →
        (d'.expand bindings once).1 = .ok once) := by
  obtain ⟨sameUser, sameValues⟩ := d.values_expand bindings text user
  have again (once : String) : ((d.expand bindings text).2.expand bindings once).1 = .ok once ↔
      fillAll once (d.values bindings user) = once := by
    rw [fst_expand (sameUser.trans known), sameValues, Except.ok.injEq]
  refine ⟨_, _, Prod.ext (fst_expand known) rfl, ?_, ?_⟩
  · rw [again, fillAll_eq_self_iff unmarked]
  · rw [again]
    rintro (inert | ⟨c, first, rest, rfl, rare, spaced⟩)
    · exact fillAll_eq_self (settled_fillAll unmarked inert text)
    · exact fillAll_fillAll_woven unmarked rare spaced

/-- A blank desk at which somebody sits. -/
def withUser (user : String) : Desk :=
  { blank with machine := { blank.machine with user := .ok user } }

/-- A user who is called by a standard name meets a token that is left; another user does not. -/
theorem expand_again_iff_ownName :
    let d := withUser "user"
    let d' := withUser "alice"
    (d.userName = .ok "user" ∧ Unmarked (d.values [] "user"))
      ∧ (d.expand [] "%%user%%").1 = .ok "%user%"
      ∧ ((d.expand [] "%%user%%").2.expand [] "%user%").1 ≠ .ok "%user%"
      ∧ (d'.userName = .ok "alice" ∧ Unmarked (d'.values [] "alice"))
      ∧ (d'.expand [] "%%user%%").1 = .ok "%alice%"
      ∧ ((d'.expand [] "%%user%%").2.expand [] "%alice%").1 = .ok "%alice%" := by
  intro d d'
  have unmarked : Unmarked (d.values [] "user") :=
    unmarked_values_iff.mpr ⟨by decide, by decide, by decide⟩
  have unmarked' : Unmarked (d'.values [] "alice") :=
    unmarked_values_iff.mpr ⟨by decide, by decide, by decide⟩
  obtain ⟨once, after, expanded, again, -⟩ := expand_again_iff d "%%user%%" rfl unmarked
  obtain ⟨once', after', expanded', -, same'⟩ := expand_again_iff d' "%%user%%" rfl unmarked'
  have first : (d.expand [] "%%user%%").1 = .ok "%user%" := by decide +kernel
  have first' : (d'.expand [] "%%user%%").1 = .ok "%alice%" := by decide +kernel
  rw [expanded] at first ⊢
  rw [expanded'] at first' ⊢
  cases first
  cases first'
  refine ⟨⟨rfl, unmarked⟩, rfl, fun same => ?_, ⟨rfl, unmarked'⟩, rfl, same' (.inl ?_)⟩
  · exact absurd (again.mp same) (by decide +kernel)
  · decide +kernel

end Desk

end Deskwork
