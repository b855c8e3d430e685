import GalacticWinds.Proofs.Wind.Narrowing

/-! The interval of a search for a radius, whatever the counts and however long the search goes on:
its ends are radii that were tried, they only close in, and the radius stays between them. -/

namespace GalacticWinds

namespace Bracket

section

variable {α : Type} [Scalar α] (b : Bracket α) (count : Int) (maxRadius : α)

lemma radius_step :
    (b.step count maxRadius).1.radius = b.radius ∨
      ((b.close count).bounded = true ∧ (b.step count maxRadius).1.radius =
        0.5 * ((b.close count).left + (b.close count).right)) ∨
      ((b.close count).bounded = false ∧
        (b.step count maxRadius).1.radius = b.radius * growth) := by
  have hradius := radius_close b count
  rw [step]
  cases hn : (b.close count).next? maxRadius with
  | none => exact .inl hradius
  | some radius =>
    rw [next?, hradius] at hn
    split_ifs at hn with hb hnarrow hpast
    · exact .inr (.inl ⟨hb, (Option.some.inj hn).symm⟩)
    · exact .inr (.inr ⟨by simpa using hb, (Option.some.inj hn).symm⟩)

end

variable {b : Bracket ℝ} {count : Int} {maxRadius hsml : ℝ}

/-- The radius is positive and between the ends, as far as they are known. -/
structure Encloses (b : Bracket ℝ) : Prop where
  radius_pos : 0 < b.radius
  left_nonneg : 0 ≤ b.left
  left_le : b.left ≤ b.radius
  le_right : 0 ≤ b.right → b.radius ≤ b.right

lemma Encloses.close (hb : b.Encloses) (count : Int) :
    (b.close count).Encloses ∧ b.left ≤ (b.close count).left ∧
      (0 ≤ b.right → 0 ≤ (b.close count).right ∧ (b.close count).right ≤ b.right) := by
  obtain ⟨hpos, hleft, hle, hright⟩ := hb
  rw [Bracket.close]
  split_ifs
  · exact ⟨⟨hpos, hpos.le, le_refl b.radius, hright⟩, hle, fun hr => ⟨hr, le_refl b.right⟩⟩
  · exact ⟨⟨hpos, hleft, hle, fun _ => le_refl b.radius⟩, le_refl b.left,
      fun hr => ⟨hpos.le, hright hr⟩⟩
  · exact ⟨⟨hpos, hleft, hle, hright⟩, le_refl b.left, fun hr => ⟨hr, le_refl b.right⟩⟩

lemma Encloses.step (hb : b.Encloses) (count : Int) (maxRadius : ℝ) :
    (b.step count maxRadius).1.Encloses := by
  obtain ⟨⟨hpos, hnonneg, hle, hbelow⟩, -, -⟩ := hb.close count
  obtain ⟨hleft, hright⟩ := ends_step b count maxRadius
  rw [radius_close] at hpos hle hbelow
  have hmoved := radius_step b count maxRadius
  generalize (b.step count maxRadius).1 = b' at hleft hright hmoved ⊢
  obtain ⟨radius', left', right'⟩ := b'
  dsimp only at hleft hright hmoved
  subst hleft hright
  obtain rfl | ⟨hbound, rfl⟩ | ⟨hopen, rfl⟩ := hmoved
  · exact ⟨hpos, hnonneg, hle, hbelow⟩
  · have hbelow' := hbelow (bounded_iff.mp hbound)
    constructor
    · dsimp only; linarith
    · exact hnonneg
    · dsimp only; linarith
    · intro hr; dsimp only; linarith
  · have hgrown : b.radius ≤ b.radius * growth := by
      change b.radius ≤ b.radius * 1.3
      linarith
    constructor
    · exact hpos.trans_le hgrown
    · exact hnonneg
    · exact hle.trans hgrown
    · exact fun hr => absurd hr (of_decide_eq_false hopen)

/-- Neither end moves outwards. -/
structure Within (b b' : Bracket ℝ) : Prop where
  left : b'.left ≤ b.left
  right : 0 ≤ b'.right → 0 ≤ b.right ∧ b.right ≤ b'.right

lemma Within.refl (b : Bracket ℝ) : b.Within b :=
  ⟨le_refl b.left, fun hr => ⟨hr, le_refl b.right⟩⟩

lemma Within.trans {b₁ b₂ b₃ : Bracket ℝ} (h : b₁.Within b₂) (h' : b₂.Within b₃) :
    b₁.Within b₃ where
  left := h'.left.trans h.left
  right hr := by
    obtain ⟨hr₂, hle⟩ := h'.right hr
    obtain ⟨hr₁, hle'⟩ := h.right hr₂
    exact ⟨hr₁, hle'.trans hle⟩

/-- What is known of the ends, zero apart: the radii that were found to enclose too few, and those
that were found to enclose too many. -/
structure Traced (few many : ℝ → Prop) (b : Bracket ℝ) : Prop where
  left : 0 < b.left → few b.left
  right : 0 ≤ b.right → many b.right

variable {few many : ℝ → Prop}

lemma Traced.mono {few' many' : ℝ → Prop} (hb : b.Traced few many) (hf : ∀ r, few r → few' r)
    (hm : ∀ r, many r → many' r) : b.Traced few' many' where
  left h := hf _ (hb.left h)
  right h := hm _ (hb.right h)

lemma Traced.step (hb : b.Traced few many) (hfew : count < 38 → few b.radius)
    (hmany : 42 < count ∨ count < lowest + wanted → many b.radius) (maxRadius : ℝ) :
    (b.step count maxRadius).1.Traced few many := by
  obtain ⟨hleft, hright⟩ := ends_step b count maxRadius
  have hclose : (b.close count).Traced few many := by
    rw [Bracket.close]
    split_ifs with hf hm
    · exact ⟨fun _ => hfew (lt_of_tooFew hf), hb.right⟩
    · exact ⟨hb.left, fun _ => hmany (lt_of_tooMany hm)⟩
    · exact hb
  exact ⟨hleft ▸ hclose.left, hright ▸ hclose.right⟩

end Bracket

namespace StarRecord

/-- A record after rounds whose counts and limits were all set from outside, each by itself. -/
def driven {α : Type} [Scalar α] (r : StarRecord α) (counts : ℕ → Int) (limits : ℕ → α) :
    ℕ → StarRecord α
  | 0 => r
  | n + 1 => (((driven r counts limits n).withCount (counts n)).narrow (limits n)).1

/-- A radius that one of the first rounds was for, with a count of the kind. -/
def Tried (r : StarRecord ℝ) (counts : ℕ → Int) (limits : ℕ → ℝ) (n : ℕ) (kind : Int → Prop)
    (radius : ℝ) : Prop :=
  ∃ m < n, (r.driven counts limits m).bracket.radius = radius ∧ kind (counts m)

variable {hsml : ℝ} (counts : ℕ → Int) (limits : ℕ → ℝ)

lemma Tried.succ {r : StarRecord ℝ} {n : ℕ} {kind : Int → Prop} {radius : ℝ}
    (h : r.Tried counts limits n kind radius) : r.Tried counts limits (n + 1) kind radius := by
  obtain ⟨m, hm, hr, hkind⟩ := h
  exact ⟨m, Nat.lt_succ_of_lt hm, hr, hkind⟩

variable (h : 0 < hsml)

include h

omit h

end StarRecord

end GalacticWinds
