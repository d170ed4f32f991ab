import CardCatalog.Proofs.Text.Folding
import CardCatalog.Proofs.Text.Words

/-!
Letters in their other case and white space. Main statement: no letter becomes white space when
it is made small.
-/

set_option autoImplicit false

namespace CardCatalog.Text

theorem lowerRuns_apart : ∀ run ∈ lowerRuns, 0 ≤ run.first + run.shift ∧
    ∀ range ∈ blankRanges,
      run.last + run.shift < range.1 ∨ range.2 < run.first + run.shift := by
  decide +kernel

theorem isBlank_ofNat {n : Nat} (apart : ∀ range ∈ blankRanges, n < range.1 ∨ range.2 < n) :
    isBlank (Char.ofNat n) = false := by
  by_cases valid : n.isValidChar
  next =>
    rw [isBlank, inRanges, List.any_eq_false]
    intro range member
    have outside := apart range member
    rw [Char.toNat_ofNat, if_pos valid]
    simp only [Bool.and_eq_true, decide_eq_true_eq]
    omega
  next =>
    have zero : (Char.ofNat n).toNat = 0 := by rw [Char.toNat_ofNat, if_neg valid]
    rw [isBlank, inRanges, zero]
    rfl

theorem CaseRun.isBlank_image {run : CaseRun} {n m : Nat} (member : run ∈ lowerRuns)
    (image : run.image? n = some m) : isBlank (Char.ofNat m) = false := by
  unfold CaseRun.image? at image
  split_ifs at image with inside
  cases image
  simp only [Bool.and_eq_true, decide_eq_true_eq] at inside
  apply isBlank_ofNat
  intro range blank
  have natural := (lowerRuns_apart run member).1
  have apart := (lowerRuns_apart run member).2 range blank
  omega

theorem solid_lowerChar {c : Char} (solid : isBlank c = false) : Solid (lowerChar c) := by
  have dotted : Solid ['i', '\u0307'] := by decide
  unfold lowerChar
  split_ifs
  next => simpa using solid
  next => exact dotted
  next =>
    split
    next n found =>
      obtain ⟨run, member, image⟩ := List.exists_of_findSome?_eq_some found
      simpa using run.isBlank_image member image
    next => simpa using solid

theorem solid_lowerChars (before : List Char) {cs : List Char} (solid : Solid cs) :
    Solid (lowerChars before cs) := by
  induction cs generalizing before with
  | nil => exact solid_nil
  | cons c rest ih =>
    obtain ⟨first, others⟩ := solid_cons.1 solid
    have sigmas : Solid ['σ'] ∧ Solid ['ς'] := by decide
    rw [lowerChars, solid_append]
    constructor
    next =>
      split_ifs
      next => exact sigmas.2
      next => exact sigmas.1
      next => exact solid_lowerChar first
    next => exact ih (c :: before) others

theorem solid_lower {s : String} (solid : Solid s.toList) : Solid (lower s).toList := by
  rw [lower, String.toList_ofList]
  exact solid_lowerChars [] solid

theorem isBlank_toUpper {c : Char} (ascii : c.toNat < 128) (solid : isBlank c = false) :
    isBlank c.toUpper = false := by
  have kept : isBlank c = false → isBlank c.toUpper = false :=
    forall_of_ascii (p := fun c => isBlank c = false → isBlank c.toUpper = false)
      (by decide +kernel) ascii
  exact kept solid

end CardCatalog.Text
