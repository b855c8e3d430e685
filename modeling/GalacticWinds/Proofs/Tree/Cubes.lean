import GalacticWinds.Proofs.Exact
import GalacticWinds.Tree.Cube

/-! Cubes in exact arithmetic: which points they hold, how the octants share them out, and how far
a point is at least from whatever a cube holds. -/

namespace GalacticWinds

def Vec.Each {α β : Type} (R : α → β → Prop) (v : Vec α) (w : Vec β) : Prop :=
  R v.x w.x ∧ R v.y w.y ∧ R v.z w.z

namespace Vec

lemma Each.trans {α : Type} {R : α → α → Prop} [IsTrans α R] {u v w : Vec α}
    (h : u.Each R v) (h' : v.Each R w) : u.Each R w :=
  ⟨IsTrans.trans _ _ _ h.1 h'.1, IsTrans.trans _ _ _ h.2.1 h'.2.1, IsTrans.trans _ _ _ h.2.2 h'.2.2⟩

lemma foldl_each {α : Type} {R : α → α → Prop} [IsTrans α R] [Std.Refl R] {f : α → α → α}
    (hl : ∀ a b, R (f a b) a) (hr : ∀ a b, R (f a b) b) (v : Vec α) (ws : List (Vec α)) :
    ∀ w ∈ v :: ws, (ws.foldl (zipWith f) v).Each R w := by
  induction ws generalizing v with
  | nil =>
    intro w hw
    rw [List.mem_singleton.mp hw]
    exact ⟨refl_of R _, refl_of R _, refl_of R _⟩
  | cons u ws ih =>
    intro w hw
    have hu := ih (zipWith f v u)
    rcases List.mem_cons.mp hw with rfl | hw
    · exact (hu _ List.mem_cons_self).trans ⟨hl _ _, hl _ _, hl _ _⟩
    · rcases List.mem_cons.mp hw with rfl | hw
      · exact (hu _ List.mem_cons_self).trans ⟨hr _ _, hr _ _, hr _ _⟩
      · exact hu w (List.mem_cons_of_mem _ hw)

end Vec

namespace Cube

def Spans (half m x : ℝ) : Prop :=
  m - half ≤ x ∧ x < m + half

def shift (half m : ℝ) (upper : Bool) : ℝ :=
  if upper then m + half else m - half

lemma contains_iff (c : Cube ℝ) (p : Vec ℝ) :
    c.contains p = true ↔ c.center.Each (Spans c.half) p := by
  simp [contains, Vec.all, Vec.zipWith, Vec.Each, Spans, and_assoc]

lemma child_real (c : Cube ℝ) (o : Octant) :
    c.child o = ⟨⟨shift (c.half / 2) c.center.x o.x, shift (c.half / 2) c.center.y o.y,
      shift (c.half / 2) c.center.z o.z⟩, c.half / 2⟩ := by
  have h : c.half / (2.0 : ℝ) = c.half / 2 := by norm_num
  rw [← h]
  rfl

lemma spans_shift_iff (half m x : ℝ) (upper : Bool) :
    Spans (half / 2) (shift (half / 2) m upper) x ↔ Spans half m x ∧ decide (m ≤ x) = upper := by
  cases upper with
  | false =>
    simp only [Spans, shift, decide_eq_false_iff_not, not_le]
    constructor
    · rintro ⟨hl, hr⟩
      norm_num at hl hr
      exact ⟨⟨by linarith, by linarith⟩, hr⟩
    · rintro ⟨⟨hl, -⟩, hr⟩
      exact ⟨by norm_num; linarith, by norm_num; linarith⟩
  | true =>
    simp only [Spans, shift, decide_eq_true_eq]
    constructor
    · rintro ⟨hl, hr⟩
      norm_num at hl hr
      exact ⟨⟨by linarith, by linarith⟩, hl⟩
    · rintro ⟨⟨-, hr⟩, hl⟩
      exact ⟨by norm_num; linarith, by norm_num; linarith⟩

lemma contains_child_iff (c : Cube ℝ) (o : Octant) (p : Vec ℝ) :
    (c.child o).contains p = true ↔ c.contains p = true ∧ c.octant p = o := by
  have ho : c.octant p = o ↔ decide (c.center.x ≤ p.x) = o.x ∧ decide (c.center.y ≤ p.y) = o.y ∧
      decide (c.center.z ≤ p.z) = o.z := Octant.ext_iff
  rw [contains_iff, contains_iff, child_real, ho]
  simp only [Vec.Each, spans_shift_iff]
  tauto

lemma excess_real (half m x : ℝ) : excess half m x = max (|x - m| - half) 0 := by
  have h : excess half m x = if 0 < |x - m| - half then |x - m| - half else 0 := rfl
  rw [h]
  split_ifs with hp
  · exact (max_eq_left hp.le).symm
  · exact (max_eq_right (not_lt.mp hp)).symm

lemma excess_nonneg (half m x : ℝ) : 0 ≤ excess half m x := by
  rw [excess_real]
  exact le_max_right _ _

lemma excess_le {half m y : ℝ} (x : ℝ) (hy : |y - m| ≤ half) : excess half m x ≤ |x - y| := by
  have ht : |x - m| ≤ |x - y| + |y - m| := abs_sub_le x y m
  rw [excess_real]
  exact max_le (by linarith) (abs_nonneg _)

lemma Spans.abs_sub_le {half m x : ℝ} (h : Spans half m x) : |x - m| ≤ half :=
  abs_le.mpr ⟨by linarith [h.1], by linarith [h.2]⟩

lemma distSq_real (c : Cube ℝ) (p : Vec ℝ) :
    c.distSq p = excess c.half c.center.x p.x ^ 2 + excess c.half c.center.y p.y ^ 2 +
      excess c.half c.center.z p.z ^ 2 :=
  Vec.normSq_real _

/-- The points of a cube and of all its faces. -/
def solid (c : Cube ℝ) : Set (Vec ℝ) :=
  {q | c.center.Each (fun m x => |x - m| ≤ c.half) q}

lemma mem_solid_of_contains {c : Cube ℝ} {p : Vec ℝ} (hp : c.contains p = true) : p ∈ c.solid := by
  obtain ⟨hx, hy, hz⟩ := (contains_iff c p).mp hp
  exact ⟨hx.abs_sub_le, hy.abs_sub_le, hz.abs_sub_le⟩

lemma distSq_le_of_mem {c : Cube ℝ} {p : Vec ℝ} (q : Vec ℝ) (hp : p ∈ c.solid) :
    c.distSq q ≤ (q - p).normSq := by
  have he : ∀ {m y : ℝ} (x : ℝ), |y - m| ≤ c.half → excess c.half m x ^ 2 ≤ (x - y) ^ 2 := by
    intro m y x hy
    rw [← sq_abs (x - y)]
    exact pow_le_pow_left₀ (excess_nonneg _ _ _) (excess_le x hy) 2
  obtain ⟨hx, hy, hz⟩ := hp
  rw [distSq_real, Vec.normSq_real]
  exact add_le_add (add_le_add (he _ hx) (he _ hy)) (he _ hz)

lemma distSq_le {c : Cube ℝ} {p : Vec ℝ} (q : Vec ℝ) (hp : c.contains p = true) :
    c.distSq q ≤ (q - p).normSq :=
  distSq_le_of_mem q (mem_solid_of_contains hp)

lemma normSq_sub_le {c : Cube ℝ} {p q : Vec ℝ} (hp : c.contains p = true)
    (hq : c.contains q = true) : (q - p).normSq ≤ 12 * c.half ^ 2 := by
  have ha : ∀ {m x y : ℝ}, Spans c.half m x → Spans c.half m y → (y - x) ^ 2 ≤ 4 * c.half ^ 2 := by
    intro m x y hx hy
    have hle : |y - x| ≤ 2 * c.half :=
      abs_le.mpr ⟨by linarith [hx.2, hy.1], by linarith [hx.1, hy.2]⟩
    calc (y - x) ^ 2 = |y - x| ^ 2 := (sq_abs _).symm
      _ ≤ (2 * c.half) ^ 2 := pow_le_pow_left₀ (abs_nonneg _) hle 2
      _ = 4 * c.half ^ 2 := by ring
  obtain ⟨hx, hy, hz⟩ := (contains_iff c p).mp hp
  obtain ⟨hx', hy', hz'⟩ := (contains_iff c q).mp hq
  have h := add_le_add (add_le_add (ha hx hx') (ha hy hy')) (ha hz hz')
  rw [Vec.normSq_real]
  refine h.trans (le_of_eq ?_)
  ring

lemma padded_real (extent : ℝ) : padded extent = extent / 2 * 1.001 + 1e-9 := by
  have h : padded extent = 0.5 * extent * 1.001 + 1e-9 := rfl
  rw [h]
  ring

/-- Between the faces, and on neither of them. -/
def Inside (half m x : ℝ) : Prop :=
  m - half < x ∧ x < m + half

lemma Inside.spans {half m x : ℝ} (h : Inside half m x) : Spans half m x :=
  ⟨h.1.le, h.2⟩

lemma inside_padded {lo hi x extent : ℝ} (hlo : lo ≤ x) (hhi : x ≤ hi) (he : hi - lo ≤ extent) :
    Inside (padded extent) (0.5 * (lo + hi)) x := by
  have hpos : 0 ≤ extent := by linarith
  have hp : extent / 2 < padded extent := by
    rw [padded_real]
    norm_num
    linarith
  have hm : 0.5 * (lo + hi) = (lo + hi) / 2 := by ring
  rw [hm]
  exact ⟨by linarith, by linarith⟩

lemma inside_spanning {lo hi p : Vec ℝ} (hlo : lo.Each (· ≤ ·) p) (hhi : hi.Each (· ≥ ·) p) :
    (spanning lo hi).center.Each (Inside (spanning lo hi).half) p := by
  have hx : (hi - lo).x ≤ (hi - lo).foldl max 0 :=
    (le_max_right _ _).trans ((le_max_left _ _).trans (le_max_left _ _))
  have hy : (hi - lo).y ≤ (hi - lo).foldl max 0 := (le_max_right _ _).trans (le_max_left _ _)
  have hz : (hi - lo).z ≤ (hi - lo).foldl max 0 := le_max_right _ _
  exact ⟨inside_padded hlo.1 hhi.1 hx, inside_padded hlo.2.1 hhi.2.1 hy,
    inside_padded hlo.2.2 hhi.2.2 hz⟩

lemma inside_bounding {p : Vec ℝ} {ps : List (Vec ℝ)} (hp : p ∈ ps) :
    (bounding ps).center.Each (Inside (bounding ps).half) p := by
  cases ps with
  | nil => exact absurd hp List.not_mem_nil
  | cons q ps =>
    rw [bounding]
    apply inside_spanning
    · exact Vec.foldl_each (R := (· ≤ ·)) (f := Scalar.min) min_le_left min_le_right q ps p hp
    · exact Vec.foldl_each (R := (· ≥ ·)) (f := Scalar.max) le_max_left le_max_right q ps p hp

lemma contains_bounding {p : Vec ℝ} {ps : List (Vec ℝ)} (hp : p ∈ ps) :
    (bounding ps).contains p = true := by
  obtain ⟨hx, hy, hz⟩ := inside_bounding hp
  exact (contains_iff _ p).mpr ⟨hx.spans, hy.spans, hz.spans⟩

end Cube

end GalacticWinds
