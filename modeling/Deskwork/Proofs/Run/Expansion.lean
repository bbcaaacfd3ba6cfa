/-
# Expansion in Place

The templates of a step are expanded in its fields, one after the other. The expansion fails exactly
when one of the texts may hold tokens and the user cannot be found out (`expandWork_eq_error_iff`);
then no field has changed yet (`Work.expand_of_error`). Otherwise writing back what stood in the
fields gives the step as it was authored (`Work.restore_expand`). In any case nothing happens that
belongs to the run (`quiet_expandWork`), and what no write changes, the expansion does not change
(`Work.expand_induction`).
-/
import Deskwork.Proofs.Alike
import Deskwork.Proofs.Fields
import Deskwork.Engine

namespace Deskwork

open Template

/-! ## Template texts -/

/-- The texts in a template field: a text itself, or those that stand in a list. -/
def Value.texts : Value → List String
  | .scalar (.text s) => [s]
  | .list items => items.filterMap fun v =>
      match v with
      | .scalar (.text s) => some s
      | _ => none
  | _ => []

/-- The texts in which templates are expanded. -/
def Work.templateTexts (w : Work) : List String :=
  w.templateValues.flatMap fun f => f.2.texts

/-- The texts of a value are those that stand in a field that has it. -/
theorem Value.texts_eq (v : Value) : v.texts = (Content.ofValue v).pieces := by
  cases v with
  | scalar s => cases s <;> rfl
  | list items =>
    have hitems : (fun v : Value => match v with
        | .scalar (.text s) => some s
        | _ => none) = Content.itemText? := by
      funext v
      cases v with
      | scalar s => cases s <;> rfl
      | list items => rfl
      | object fields => rfl
    show items.filterMap _ = items.filterMap Content.itemText?
    rw [hitems]
  | object fields => rfl

/-- Where no two names are the same, a field is found under its name. -/
theorem lookup_of_mem {fields : List (String × Value)} (h : (fields.map Prod.fst).Nodup)
    {name : String} {v : Value} (hv : (name, v) ∈ fields) : fields.lookup name = some v := by
  induction fields with
  | nil => cases hv
  | cons f fields ih =>
    obtain ⟨k, u⟩ := f
    rw [List.map_cons, List.nodup_cons] at h
    rcases List.mem_cons.mp hv with heq | hmem
    · obtain ⟨rfl, rfl⟩ := Prod.mk.inj heq
      exact List.lookup_cons_self
    · have hne : name ≠ k := by
        rintro rfl
        exact h.1 (List.mem_map.mpr ⟨(name, v), hmem, rfl⟩)
      rw [List.lookup_cons, beq_eq_false_iff_ne.mpr hne]
      exact ih h.2 hmem

namespace Work

/-- The template texts are those that stand in the template fields. -/
theorem mem_templateTexts {w : Work} {t : String} :
    t ∈ w.templateTexts ↔ ∃ n ∈ w.templateFields, t ∈ (w.read n).pieces := by
  unfold templateTexts templateValues
  simp only [List.mem_flatMap, List.mem_filter, List.contains_iff_mem, Value.texts_eq]
  constructor
  · rintro ⟨⟨n, v⟩, ⟨hfield, hn⟩, ht⟩
    refine ⟨n, hn, ?_⟩
    unfold read Value.fieldOr Value.field?
    rw [lookup_of_mem w.nodup_fields hfield]
    exact ht
  · rintro ⟨n, hn, ht⟩
    unfold read Value.fieldOr Value.field? at ht
    cases hv : w.fields.lookup n with
    | none =>
      rw [hv] at ht
      cases ht
    | some v =>
      rw [hv] at ht
      obtain ⟨front, back, hfields, -⟩ := List.lookup_eq_some_iff.mp hv
      exact ⟨(n, v), ⟨by simp [hfields], hn⟩, ht⟩

end Work

/-! ## Contents -/

namespace Desk

variable (d : Desk) (bindings : List (String × Scalar))

theorem quiet_expandAll (texts : List String) :
    d.Quiet (d.expandAll bindings texts).2 := by
  induction texts generalizing d with
  | nil => exact .refl d
  | cons text rest ih =>
    have h := d.quiet_expand bindings text
    unfold expandAll
    generalize d.expand bindings text = p at h ⊢
    obtain ⟨_ | expanded, d'⟩ := p
    · exact h
    · exact h.trans (ih d')

/-- Nothing that belongs to a run happens while what stands in a field is expanded. -/
theorem quiet_expandContent (c : Content) :
    d.Quiet (d.expandContent bindings c).2 := by
  cases c with
  | text s => exact d.quiet_expand bindings s
  | texts items => exact d.quiet_expandAll bindings items
  | other => exact .refl d

theorem expandAll_eq_error_iff (texts : List String) (f : Fault) :
    (d.expandAll bindings texts).1 = .error f ↔
      (∃ t ∈ texts, mayHoldTokens t = true) ∧ d.userName = .error f := by
  induction texts generalizing d with
  | nil => simp [expandAll]
  | cons text rest ih =>
    have hsteady := (d.quiet_expand bindings text).steady
    have herror := d.expand_eq_error_iff bindings text
    unfold expandAll
    generalize d.expand bindings text = p at hsteady herror ⊢
    obtain ⟨g | expanded, d'⟩ := p
    · obtain ⟨htokens, hg⟩ := (herror g).mp rfl
      simp [hg, htokens]
    · -- The first text is expanded, so a failure comes from the others.
      have hfirst : ¬ (mayHoldTokens text = true ∧ d.userName = .error f) := by
        intro h
        cases (herror f).mpr h
      have hrest := ih d'
      rw [hsteady.userName] at hrest
      have hmap : (Except.map (fun texts => expanded :: texts) (d'.expandAll bindings rest).1 =
          .error f) ↔ (d'.expandAll bindings rest).1 = .error f := by
        cases (d'.expandAll bindings rest).1 <;> simp [Except.map]
      dsimp only
      rw [hmap, hrest]
      simp only [List.mem_cons, exists_eq_or_imp]
      constructor
      · exact fun h => ⟨.inr h.1, h.2⟩
      · rintro ⟨htext | hrest, hf⟩
        · exact absurd ⟨htext, hf⟩ hfirst
        · exact ⟨hrest, hf⟩

/-- What stands in a field cannot be expanded exactly when a text of it may hold tokens and the user
cannot be found out. -/
theorem expandContent_eq_error_iff (c : Content) (f : Fault) :
    (d.expandContent bindings c).1 = .error f ↔
      (∃ t ∈ c.pieces, mayHoldTokens t = true) ∧ d.userName = .error f := by
  cases c with
  | text s =>
    have hmap : ((d.expand bindings s).1.map Content.text = .error f) ↔
        (d.expand bindings s).1 = .error f := by
      cases (d.expand bindings s).1 <;> simp [Except.map]
    show (d.expand bindings s).1.map Content.text = .error f ↔ _
    rw [hmap, d.expand_eq_error_iff]
    simp [Content.pieces]
  | texts items =>
    have hmap : ((d.expandAll bindings items).1.map Content.texts = .error f) ↔
        (d.expandAll bindings items).1 = .error f := by
      cases (d.expandAll bindings items).1 <;> simp [Except.map]
    show (d.expandAll bindings items).1.map Content.texts = .error f ↔ _
    rw [hmap, d.expandAll_eq_error_iff bindings]
    rfl
  | other => simp [expandContent, Content.pieces]

/-- A text without tokens stays as it is. -/
theorem expand_of_no_tokens {text : String} (h : mayHoldTokens text = false) :
    d.expand bindings text = (.ok text, d) := by
  unfold expand
  rw [h]
  rfl

theorem expandAll_of_no_tokens {texts : List String}
    (h : ∀ t ∈ texts, mayHoldTokens t = false) : d.expandAll bindings texts = (.ok texts, d) := by
  induction texts with
  | nil => rfl
  | cons text rest ih =>
    have htext := d.expand_of_no_tokens bindings (h text List.mem_cons_self)
    have hrest := ih fun t ht => h t (List.mem_cons_of_mem text ht)
    rw [expandAll, htext]
    dsimp only
    rw [hrest]
    rfl

/-- What stands in a field without tokens stays as it is. -/
theorem expandContent_of_no_tokens {c : Content}
    (h : ∀ t ∈ c.pieces, mayHoldTokens t = false) : d.expandContent bindings c = (.ok c, d) := by
  cases c with
  | text s =>
    have hs := d.expand_of_no_tokens bindings (h s (List.mem_singleton_self s))
    unfold expandContent
    dsimp only
    rw [hs]
    rfl
  | texts items =>
    have hitems : d.expandAll bindings items = (.ok items, d) :=
      d.expandAll_of_no_tokens bindings h
    unfold expandContent
    dsimp only
    rw [hitems]
    rfl
  | other => rfl

end Desk

/-! ## Fields -/

namespace Work

variable {bindings : List (String × Scalar)} {names : List String}

/-- How the fields of the given names are expanded when the first of them can be. -/
theorem expandFields_cons_of_ok {n : String} {w : Work} {d d' : Desk} {c : Content}
    (h : d.expandContent bindings (w.read n) = (.ok c, d')) :
    expandFields bindings (n :: names) w d =
      if c = w.read n then expandFields bindings names w d'
      else
        (((expandFields bindings names (w.write n c) d').1).map ((n, w.read n) :: ·),
          (expandFields bindings names (w.write n c) d').2) := by
  rw [expandFields]
  dsimp only
  rw [h]

/-- How the fields of the given names are expanded when the first of them cannot be. -/
theorem expandFields_cons_of_error {n : String} {w : Work} {d d' : Desk} {f : Fault}
    (h : d.expandContent bindings (w.read n) = (.error f, d')) :
    expandFields bindings (n :: names) w d = (.error f, w, d') := by
  rw [expandFields]
  dsimp only
  rw [h]

/-- What holds of the work and is kept by every write holds after the expansion, too. -/
theorem expandFields_induction {P : Work → Prop} (hP : ∀ n c w, P w → P (w.write n c)) {w : Work}
    (hw : P w) (d : Desk) : P (expandFields bindings names w d).2.1 := by
  induction names generalizing w d with
  | nil => exact hw
  | cons n names ih =>
    rcases h : d.expandContent bindings (w.read n) with ⟨f | c, d'⟩
    · rw [expandFields_cons_of_error h]
      exact hw
    · rw [expandFields_cons_of_ok h]
      split
      · exact ih hw d'
      · exact ih (hP n c w hw) d'

theorem quiet_expandFields (w : Work) (d : Desk) :
    d.Quiet (expandFields bindings names w d).2.2 := by
  induction names generalizing w d with
  | nil => exact .refl d
  | cons n names ih =>
    have hquiet := d.quiet_expandContent bindings (w.read n)
    rcases h : d.expandContent bindings (w.read n) with ⟨f | c, d'⟩
    · rw [h] at hquiet
      rw [expandFields_cons_of_error h]
      exact hquiet
    · rw [h] at hquiet
      rw [expandFields_cons_of_ok h]
      split
      · exact hquiet.trans (ih w d')
      · exact hquiet.trans (ih _ d')

/-- The talk at the desk does not matter for the expansion of fields. -/
theorem alike_expandFields (w : Work) :
    Alike Desk.hushed
      (fun d => (((expandFields bindings names w d).1, (expandFields bindings names w d).2.1),
        (expandFields bindings names w d).2.2))
      fun d => (((expandFields bindings names w d).1, (expandFields bindings names w d).2.1),
        (expandFields bindings names w d).2.2) := by
  induction names generalizing w with
  | nil => exact fun _ _ h => ⟨rfl, h⟩
  | cons n names ih =>
    intro d d' hdesk
    obtain ⟨hfound, hafter⟩ := Desk.alike_expandContent bindings (w.read n) d d' hdesk
    dsimp only at hfound hafter ⊢
    rcases h : d.expandContent bindings (w.read n) with ⟨f | c, e⟩
    · rcases h' : d'.expandContent bindings (w.read n) with ⟨f' | c', e'⟩
      · rw [h, h'] at hfound hafter
        obtain rfl := Except.error.inj hfound
        rw [expandFields_cons_of_error h, expandFields_cons_of_error h']
        exact ⟨rfl, hafter⟩
      · rw [h, h'] at hfound
        cases hfound
    · rcases h' : d'.expandContent bindings (w.read n) with ⟨f' | c', e'⟩
      · rw [h, h'] at hfound
        cases hfound
      · rw [h, h'] at hfound hafter
        obtain rfl := Except.ok.inj hfound
        rw [expandFields_cons_of_ok h, expandFields_cons_of_ok h']
        split
        · exact ih w e e' hafter
        · obtain ⟨hrest, hend⟩ := ih (w.write n c) e e' hafter
          obtain ⟨horiginals, hwork⟩ := Prod.mk.inj hrest
          exact ⟨Prod.ext (congrArg (Except.map ((n, w.read n) :: ·)) horiginals) hwork, hend⟩

/-- The fields of the given names cannot be expanded exactly when a text of one of them may hold
tokens and the user cannot be found out. -/
theorem expandFields_eq_error_iff (hnames : names.Nodup) (w : Work) (d : Desk) (f : Fault) :
    (expandFields bindings names w d).1 = .error f ↔
      (∃ n ∈ names, ∃ t ∈ (w.read n).pieces, mayHoldTokens t = true) ∧ d.userName = .error f := by
  induction names generalizing w d with
  | nil => simp [expandFields]
  | cons n names ih =>
    obtain ⟨hn, hnames⟩ := List.nodup_cons.mp hnames
    have hsteady := (d.quiet_expandContent bindings (w.read n)).steady
    have herror := d.expandContent_eq_error_iff bindings (w.read n)
    simp only [List.mem_cons, exists_eq_or_imp]
    rcases h : d.expandContent bindings (w.read n) with ⟨g | c, d'⟩
    · rw [h] at herror
      obtain ⟨htokens, hg⟩ := (herror g).mp rfl
      rw [expandFields_cons_of_error h]
      simp [hg, htokens]
    · rw [h] at hsteady herror
      have hfirst : ¬ ((∃ t ∈ (w.read n).pieces, mayHoldTokens t = true) ∧ d.userName = .error f) :=
        fun h => nomatch (herror f).mpr h
      -- The other fields read as before, whether or not the first one was written to.
      have hrest : (expandFields bindings (n :: names) w d).1 = .error f ↔
          (∃ m ∈ names, ∃ t ∈ (w.read m).pieces, mayHoldTokens t = true) ∧
            d.userName = .error f := by
        rw [expandFields_cons_of_ok h, ← hsteady.userName]
        split
        · exact ih hnames w d'
        · have hread : ∀ m ∈ names, (w.write n c).read m = w.read m := fun m hm =>
            read_write_of_ne (fun heq : m = n => hn (heq ▸ hm)) c w
          have hmap : (Except.map ((n, w.read n) :: ·)
              (expandFields bindings names (w.write n c) d').1 = .error f) ↔
              (expandFields bindings names (w.write n c) d').1 = .error f := by
            cases (expandFields bindings names (w.write n c) d').1 <;> simp [Except.map]
          rw [hmap, ih hnames]
          constructor
          · rintro ⟨⟨m, hm, ht⟩, hu⟩
            exact ⟨⟨m, hm, hread m hm ▸ ht⟩, hu⟩
          · rintro ⟨⟨m, hm, ht⟩, hu⟩
            exact ⟨⟨m, hm, (hread m hm).symm ▸ ht⟩, hu⟩
      rw [hrest]
      constructor
      · exact fun h => ⟨.inr h.1, h.2⟩
      · rintro ⟨htext | hrest, hf⟩
        · exact absurd ⟨htext, hf⟩ hfirst
        · exact ⟨hrest, hf⟩

/-- A field that changed held a text that may hold tokens. -/
theorem exists_tokens_of_ne {w : Work} {n : String} {d d' : Desk} {c : Content}
    (h : d.expandContent bindings (w.read n) = (.ok c, d')) (hc : c ≠ w.read n) :
    ∃ t ∈ (w.read n).pieces, mayHoldTokens t = true := by
  refine Decidable.byContradiction fun hnone => hc ?_
  have hplain : ∀ t ∈ (w.read n).pieces, mayHoldTokens t = false := fun t ht =>
    Bool.eq_false_iff.mpr fun htokens => hnone ⟨t, ht, htokens⟩
  rw [d.expandContent_of_no_tokens bindings hplain] at h
  exact (Except.ok.inj (congrArg Prod.fst h)).symm

/-- When some field cannot be expanded, none before it has changed: it would not have been expanded
either. -/
theorem expandFields_of_error (hnames : names.Nodup) {w : Work} {d : Desk} {f : Fault}
    (h : (expandFields bindings names w d).1 = .error f) :
    (expandFields bindings names w d).2.1 = w := by
  obtain ⟨-, hu⟩ := (expandFields_eq_error_iff hnames w d f).mp h
  induction names generalizing d with
  | nil => rfl
  | cons n names ih =>
    have hsteady := (d.quiet_expandContent bindings (w.read n)).steady
    rcases hc : d.expandContent bindings (w.read n) with ⟨g | c, d'⟩
    · rw [expandFields_cons_of_error hc]
    · rw [hc] at hsteady
      rw [expandFields_cons_of_ok hc] at h ⊢
      by_cases hsame : c = w.read n
      · rw [if_pos hsame] at h ⊢
        exact ih (List.nodup_cons.mp hnames).2 h (hsteady.userName.trans hu)
      · have herror := (d.expandContent_eq_error_iff bindings (w.read n) f).mpr
          ⟨exists_tokens_of_ne hc hsame, hu⟩
        rw [hc] at herror
        cases herror

/-- The fields that changed are some of those that were to be expanded. -/
theorem originals_subset {w : Work} {d : Desk} {p : Work × Desk}
    {originals : List (String × Content)}
    (h : expandFields bindings names w d = (.ok originals, p)) :
    ∀ n ∈ originals.map Prod.fst, n ∈ names := by
  induction names generalizing w d p originals with
  | nil =>
    obtain rfl := Except.ok.inj (congrArg Prod.fst h)
    simp
  | cons n names ih =>
    rcases hc : d.expandContent bindings (w.read n) with ⟨g | c, e⟩
    · rw [expandFields_cons_of_error hc] at h
      cases congrArg Prod.fst h
    · rw [expandFields_cons_of_ok hc] at h
      split at h
      · exact fun m hm => List.mem_cons_of_mem n (ih h m hm)
      · rcases hrest : expandFields bindings names (w.write n c) e with ⟨g | rest, q⟩
        · rw [hrest] at h
          cases congrArg Prod.fst h
        · rw [hrest] at h
          obtain rfl := Except.ok.inj (congrArg Prod.fst h)
          intro m hm
          rcases List.mem_cons.mp hm with rfl | hm
          · exact List.mem_cons_self
          · exact List.mem_cons_of_mem n (ih hrest m hm)

/-- Writing back what stood in the fields undoes their expansion. -/
theorem restore_expandFields (hnames : names.Nodup) {w w' : Work} {d d' : Desk}
    {originals : List (String × Content)}
    (h : expandFields bindings names w d = (.ok originals, w', d')) :
    w'.restore originals = w := by
  induction names generalizing w d originals with
  | nil =>
    obtain ⟨horiginals, hw⟩ := Prod.mk.inj h
    obtain rfl := Except.ok.inj horiginals
    exact (Prod.mk.inj hw).1.symm
  | cons n names ih =>
    obtain ⟨hn, hnames⟩ := List.nodup_cons.mp hnames
    rcases hc : d.expandContent bindings (w.read n) with ⟨g | c, e⟩
    · rw [expandFields_cons_of_error hc] at h
      cases congrArg Prod.fst h
    · rw [expandFields_cons_of_ok hc] at h
      split at h
      · exact ih hnames h
      · next hne =>
        rcases hrest : expandFields bindings names (w.write n c) e with ⟨g | rest, q⟩
        · rw [hrest] at h
          cases congrArg Prod.fst h
        · rw [hrest] at h
          obtain ⟨horiginals, hw⟩ := Prod.mk.inj h
          obtain rfl := Except.ok.inj horiginals
          obtain rfl : q = (w', d') := hw
          -- What stood in this field can be written back last, and that undoes the write to it.
          have hnot : n ∉ rest.map Prod.fst := fun hmem => hn (originals_subset hrest n hmem)
          have hread : w.read n ≠ .other := by
            intro hother
            obtain ⟨t, ht, -⟩ := exists_tokens_of_ne hc hne
            rw [hother] at ht
            cases ht
          rw [restore_cons, restore_write hnot, ih hnames hrest]
          exact write_read hread c

/-! ## Whole steps -/

/-- What holds of the work and is kept by every write holds of the expanded work, too. -/
theorem expand_induction {P : Work → Prop} (hP : ∀ n c w, P w → P (w.write n c)) {w : Work}
    (hw : P w) (d : Desk) : P (w.expand bindings d).2.1 :=
  expandFields_induction hP hw d

/-- A step whose templates cannot be expanded stays as it is. -/
theorem expand_of_error {w : Work} {d : Desk} {f : Fault}
    (h : (w.expand bindings d).1 = .error f) : (w.expand bindings d).2.1 = w :=
  expandFields_of_error w.nodup_templateFields h

/-- A step with expanded templates is as it was authored after what stood in its fields was written
back. -/
theorem restore_expand {w w' : Work} {d d' : Desk} {originals : List (String × Content)}
    (h : w.expand bindings d = (.ok originals, w', d')) : w'.restore originals = w :=
  restore_expandFields w.nodup_templateFields h

end Work

namespace Engine

/-- The step with its templates expanded, and the desk afterwards. -/
def expandWork (w : Work) (d : Desk) (bindings : List (String × Scalar)) :
    Except Fault Work × Desk :=
  (((w.expand bindings d).1).map fun _ => (w.expand bindings d).2.1, (w.expand bindings d).2.2)

variable {bindings : List (String × Scalar)} {d : Desk}

/-- Nothing that belongs to a run happens while the templates of a step are expanded. -/
theorem quiet_expandWork (w : Work) (d : Desk) (bindings : List (String × Scalar)) :
    d.Quiet (expandWork w d bindings).2 :=
  w.quiet_expandFields d

/-- The talk at the desk does not matter for the expansion of the templates of a step. -/
theorem alike_expandWork (w : Work) (bindings : List (String × Scalar)) :
    Alike Desk.hushed (fun d => expandWork w d bindings) fun d => expandWork w d bindings := by
  intro d d' h
  obtain ⟨hfound, hafter⟩ := w.alike_expandFields d d' h
  obtain ⟨horiginals, hwork⟩ := Prod.mk.inj hfound
  refine ⟨?_, hafter⟩
  show Except.map (fun _ => (w.expand bindings d).2.1) (w.expand bindings d).1 =
    Except.map (fun _ => (w.expand bindings d').2.1) (w.expand bindings d').1
  unfold Work.expand
  rw [horiginals, hwork]

/-- The templates of a step cannot be expanded exactly when one of them may hold tokens and the user
cannot be found out. -/
theorem expandWork_eq_error_iff (w : Work) (d : Desk) (bindings : List (String × Scalar))
    (f : Fault) :
    (expandWork w d bindings).1 = .error f ↔
      (∃ t ∈ w.templateTexts, mayHoldTokens t = true) ∧ d.userName = .error f := by
  have hmap : (expandWork w d bindings).1 = .error f ↔ (w.expand bindings d).1 = .error f := by
    unfold expandWork
    cases (w.expand bindings d).1 <;> simp [Except.map]
  have htexts : (∃ t ∈ w.templateTexts, mayHoldTokens t = true) ↔
      ∃ n ∈ w.templateFields, ∃ t ∈ (w.read n).pieces, mayHoldTokens t = true := by
    constructor
    · rintro ⟨t, ht, htokens⟩
      obtain ⟨n, hn, hpiece⟩ := Work.mem_templateTexts.mp ht
      exact ⟨n, hn, t, hpiece, htokens⟩
    · rintro ⟨n, hn, t, hpiece, htokens⟩
      exact ⟨t, Work.mem_templateTexts.mpr ⟨n, hn, hpiece⟩, htokens⟩
  rw [hmap, htexts]
  exact Work.expandFields_eq_error_iff w.nodup_templateFields w d f

/-- What holds of a step and is kept by every write to its fields holds of the expanded step. -/
theorem expandWork_induction {P : Work → Prop} (hP : ∀ n c w, P w → P (w.write n c)) {w w' : Work}
    (hw : P w) (h : (expandWork w d bindings).1 = .ok w') : P w' := by
  have hexpanded : P (w.expand bindings d).2.1 := w.expand_induction hP hw d
  unfold expandWork at h
  cases hr : (w.expand bindings d).1 with
  | error f =>
    rw [hr] at h
    cases h
  | ok originals =>
    rw [hr] at h
    exact Except.ok.inj h ▸ hexpanded

/-- Expanding the templates of an action keeps the part of it that steers control. -/
theorem steering_of_expandWork {a : Action} {w : Work}
    (h : (expandWork (.action a) d bindings).1 = .ok w) :
    ∃ a', w = .action a' ∧ a'.steering = a.steering ∧ a'.references = a.references := by
  refine expandWork_induction (P := fun w => ∃ a', w = .action a' ∧ a'.steering = a.steering ∧
    a'.references = a.references) ?_ ⟨a, rfl, rfl, rfl⟩ h
  rintro n c _ ⟨a', rfl, hsteering, hreferences⟩
  refine ⟨a'.write n c, rfl, (a'.steering_write n c).trans hsteering, ?_⟩
  exact ((Work.action a').references_write n c).trans hreferences

/-- Expanding the templates of an action gives an action. -/
theorem expandWork_action {a : Action} {w : Work}
    (h : (expandWork (.action a) d bindings).1 = .ok w) : ∃ a', w = .action a' := by
  obtain ⟨a', rfl, -⟩ := steering_of_expandWork h
  exact ⟨a', rfl⟩

end Engine

end Deskwork
