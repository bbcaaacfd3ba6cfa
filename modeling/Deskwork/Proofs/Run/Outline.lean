/-
# Outlines

A script in outline is made of single steps and of loops that repeat their bodies for a number of
times. Flattened, every loop stands between two markers (`flatten`); unrolled, it is as many copies
of its body (`unrolled`). The steps of the flattened script in the order in which they are to be
visited (`walk`) are those of the unrolled script and the markers in between (`filter_walk`).
-/
import Deskwork.Step.Basic

namespace Deskwork

/-! ## Outlines -/

/-- How the markers of a loop are authored, apart from what makes them its markers. -/
structure Brackets where
  comment : String
  left : String
  right : String
  openingContinues : Bool
  closingContinues : Bool

namespace Brackets

/-- The start of a loop. -/
def opening (m : Brackets) : Slot :=
  ⟨true, m.openingContinues, .action (.loopStart ⟨m.comment⟩), .fresh⟩

/-- The end of a loop that starts at a position and repeats its body for a number of times. -/
def closing (m : Brackets) (position times : Nat) : Slot :=
  ⟨true, m.closingContinues,
    .action (.loopEnd ⟨position, .maxIterations, m.left, m.right, times⟩), .fresh⟩

end Brackets

/-- A script in outline. -/
inductive Outline where
  | done
  | step (continueOnError : Bool) (work : Work) (rest : Outline)
  /-- A loop that repeats its body for a positive number of times, and what follows it. -/
  | loop (times : Nat) (positive : 0 < times) (marks : Brackets) (body rest : Outline)

namespace Outline

/-- The number of steps of the flattened script. -/
def size : Outline → Nat
  | .done => 0
  | .step _ _ rest => rest.size + 1
  | .loop _ _ _ body rest => body.size + rest.size + 2

/-- The flattened script, the first step of which stands at an index. -/
def flatten : Nat → Outline → List Slot
  | _, .done => []
  | index, .step continueOnError work rest =>
    ⟨true, continueOnError, work, .fresh⟩ :: flatten (index + 1) rest
  | index, .loop times _ marks body rest =>
    marks.opening :: (flatten (index + 1) body ++
      marks.closing (index + 1) times :: flatten (index + 1 + body.size + 1) rest)

/-- The indexes of the single steps, in the order in which they stand. -/
def leaves : Nat → Outline → List Nat
  | _, .done => []
  | index, .step _ _ rest => index :: leaves (index + 1) rest
  | index, .loop _ _ _ body rest =>
    leaves (index + 1) body ++ leaves (index + 1 + body.size + 1) rest

/-- The indexes of the ends of the loops. -/
def ends : Nat → Outline → List Nat
  | _, .done => []
  | index, .step _ _ rest => ends (index + 1) rest
  | index, .loop _ _ _ body rest =>
    ends (index + 1) body ++ (index + 1 + body.size) :: ends (index + 1 + body.size + 1) rest

/-- The indexes of the single steps in the order of the script with all loops unrolled. -/
def unrolled : Nat → Outline → List Nat
  | _, .done => []
  | index, .step _ _ rest => index :: unrolled (index + 1) rest
  | index, .loop times _ _ body rest =>
    (List.replicate times (unrolled (index + 1) body)).flatten ++
      unrolled (index + 1 + body.size + 1) rest

/-- The indexes of all steps with the markers, in the order of the script with all loops unrolled.
-/
def walk : Nat → Outline → List Nat
  | _, .done => []
  | index, .step _ _ rest => index :: walk (index + 1) rest
  | index, .loop times _ _ body rest =>
    (List.replicate times (index :: (walk (index + 1) body ++ [index + 1 + body.size]))).flatten ++
      walk (index + 1 + body.size + 1) rest

/-- The indexes of all steps visited once around a loop that starts at an index. -/
def round (index : Nat) (body : Outline) : List Nat :=
  index :: (body.walk (index + 1) ++ [index + 1 + body.size])

/-- What the single steps do. -/
def works : Outline → List Work
  | .done => []
  | .step _ work rest => work :: rest.works
  | .loop _ _ _ body rest => body.works ++ rest.works

/-- The texts of the markers. -/
def texts : Outline → List String
  | .done => []
  | .step _ _ rest => rest.texts
  | .loop _ _ marks body rest => [marks.left, marks.right] ++ (body.texts ++ rest.texts)

theorem length_flatten (p : Outline) (index : Nat) : (p.flatten index).length = p.size := by
  induction p generalizing index with
  | done => rfl
  | step _ _ rest ih => rw [flatten, List.length_cons, ih, size]
  | loop _ _ _ body rest ihbody ihrest =>
    rw [flatten, List.length_cons, List.length_append, List.length_cons, ihbody, ihrest, size]
    omega

variable {index k : Nat}

/-- The steps of a loop: its markers, those of its body, and those that follow. -/
theorem mem_walk_loop {times : Nat} {positive : 0 < times} {marks : Brackets}
    {body rest : Outline} :
    k ∈ (Outline.loop times positive marks body rest).walk index ↔
      k = index ∨ k ∈ body.walk (index + 1) ∨ k = index + 1 + body.size ∨
        k ∈ rest.walk (index + 1 + body.size + 1) := by
  have hne : ¬ times = 0 := Nat.ne_of_gt positive
  rw [walk, List.mem_append, List.mem_flatten]
  simp only [List.mem_replicate, ne_eq, hne, not_false_eq_true, true_and, exists_eq_left,
    List.mem_cons, List.mem_append, List.not_mem_nil, or_false, or_assoc]

/-- All steps stand in the flattened script. -/
theorem walk_bounds (p : Outline) (h : k ∈ p.walk index) :
    index ≤ k ∧ k < index + p.size := by
  induction p generalizing index with
  | done => cases h
  | step _ _ rest ih =>
    rw [size]
    rcases List.mem_cons.mp h with rfl | h
    · omega
    · have := ih h
      omega
  | loop _ _ _ body rest ihbody ihrest =>
    rw [size]
    rcases mem_walk_loop.mp h with rfl | h | rfl | h
    · omega
    · have := ihbody h
      omega
    · omega
    · have := ihrest h
      omega

theorem rounds_bounds (body : Outline) {times : Nat}
    (h : k ∈ (List.replicate times (body.round index)).flatten) :
    index ≤ k ∧ k < index + 1 + body.size + 1 := by
  obtain ⟨l, hl, hk⟩ := List.mem_flatten.mp h
  rw [List.eq_of_mem_replicate hl, round, List.mem_cons, List.mem_append, List.mem_singleton] at hk
  rcases hk with rfl | hk | rfl
  · omega
  · have := body.walk_bounds hk
    omega
  · omega

theorem mem_walk_of_leaves (p : Outline) (h : k ∈ p.leaves index) : k ∈ p.walk index := by
  induction p generalizing index with
  | done => exact h
  | step _ _ rest ih =>
    rcases List.mem_cons.mp h with rfl | h
    · exact List.mem_cons_self
    · exact List.mem_cons_of_mem _ (ih h)
  | loop _ _ _ body rest ihbody ihrest =>
    refine mem_walk_loop.mpr ?_
    rcases List.mem_append.mp h with h | h
    · exact .inr (.inl (ihbody h))
    · exact .inr (.inr (.inr (ihrest h)))

/-- The single steps alone are visited in the order of the script with all loops unrolled. -/
theorem filter_walk (p : Outline) {L : List Nat}
    (hL : ∀ k, index ≤ k → k < index + p.size → (k ∈ L ↔ k ∈ p.leaves index)) :
    (p.walk index).filter (· ∈ L) = p.unrolled index := by
  induction p generalizing index with
  | done => rfl
  | step _ _ rest ih =>
    have hrest : (rest.walk (index + 1)).filter (· ∈ L) = rest.unrolled (index + 1) := by
      refine ih fun k hk hk' => ?_
      rw [hL k (by omega) (by rw [size]; omega), leaves, List.mem_cons]
      exact or_iff_right (by omega)
    have hhead : index ∈ L := (hL index (by omega) (by rw [size]; omega)).mpr List.mem_cons_self
    rw [walk, unrolled, List.filter_cons_of_pos (by simpa using hhead), hrest]
  | loop times _ _ body rest ihbody ihrest =>
    have hbody : (body.walk (index + 1)).filter (· ∈ L) = body.unrolled (index + 1) := by
      refine ihbody fun k hk hk' => ?_
      rw [hL k (by omega) (by rw [size]; omega), leaves, List.mem_append]
      refine or_iff_left fun h => ?_
      have := walk_bounds _ (mem_walk_of_leaves _ h)
      omega
    have hrest : (rest.walk (index + 1 + body.size + 1)).filter (· ∈ L) =
        rest.unrolled (index + 1 + body.size + 1) := by
      refine ihrest fun k hk hk' => ?_
      rw [hL k (by omega) (by rw [size]; omega), leaves, List.mem_append]
      refine or_iff_right fun h => ?_
      have := walk_bounds _ (mem_walk_of_leaves _ h)
      omega
    -- The markers stand outside of the body and of what follows.
    have hmark {k : Nat} (hk : k = index ∨ k = index + 1 + body.size) : k ∉ L := by
      rw [hL k (by omega) (by rw [size]; omega), leaves, List.mem_append, not_or]
      constructor
      · intro h
        have := walk_bounds _ (mem_walk_of_leaves _ h)
        omega
      · intro h
        have := walk_bounds _ (mem_walk_of_leaves _ h)
        omega
    rw [walk, unrolled, List.filter_append, hrest, List.filter_flatten, List.map_replicate,
      List.filter_cons_of_neg (by simpa using hmark (.inl rfl)), List.filter_append, hbody,
      List.filter_cons_of_neg (by simpa using hmark (.inr rfl)), List.filter_nil, List.append_nil]

end Outline

end Deskwork
