import GalacticWinds.Proofs.Wind.Survey.Sums

/-! A search that is divided among parts of the particles, each with a tree of its own. What the
parts find adds up to what one search of all particles finds. -/

namespace GalacticWinds

open scoped List

lemma Moments.ofList_append (vs ws : List (Vec ℝ)) :
    ofList (vs ++ ws) = (ofList vs).merge .add (ofList ws) := by
  simp only [ofList_real, List.length_append, Nat.cast_add, List.map_append, List.sum_append]
  rfl

namespace StarRecord

variable {α : Type} [Scalar α] (r : StarRecord α) (s t : Surroundings α)

lemma merge_replace : r.merge .replace s = { r with around := s } :=
  rfl

/-- What a part finds can as well be added to what another has found before either is recorded. -/
lemma merge_replace_add :
    (r.merge .replace s).merge .add t = r.merge .replace (s.merge .add t) :=
  rfl

end StarRecord

section

variable (cosmology : Cosmology ℝ) (maxRadius : ℝ) (q : StarQuery ℝ)

noncomputable def StarQuery.found (ps : Array (Particle ℝ)) : Surroundings ℝ :=
  (surveyWalk cosmology maxRadius).gather (.build ps) ps q

lemma found_eq (ps : Array (Particle ℝ)) :
    q.found cosmology maxRadius ps =
      ⟨((Store.within ⟨ps, #[], 0⟩ .gas q.star.pos q.star.hsml).map (·.mass)).sum,
        .ofList ((Store.within ⟨ps, #[], 0⟩ .darkMatter q.star.pos q.record.bracket.radius).map
          fun p => p.vel + (q.star.pos - p.pos).map cosmology.hubbleFlow)⟩ := by
  rw [← gasMass_gather_build cosmology maxRadius q ⟨ps, #[], 0⟩, ← Store.flowWithin_eq_map,
    ← darkMatter_gather_build cosmology maxRadius q ⟨ps, #[], 0⟩]
  rfl

variable {whole first second : Array (Particle ℝ)}

lemma found_perm (h : whole.toList ~ first.toList) :
    q.found cosmology maxRadius whole = q.found cosmology maxRadius first := by
  have hwithin : ∀ k c r, Store.within ⟨whole, #[], 0⟩ k c r ~ Store.within ⟨first, #[], 0⟩ k c r :=
    fun k c r => h.filter _
  rw [found_eq, found_eq, ((hwithin _ _ _).map _).sum_eq,
    Moments.ofList_perm ((hwithin _ _ _).map _)]

/-- The cubes of the three trees have nothing to do with one another. -/
lemma found_append :
    q.found cosmology maxRadius (first ++ second) =
      (q.found cosmology maxRadius first).merge .add (q.found cosmology maxRadius second) := by
  have hwithin : ∀ k c r, Store.within ⟨first ++ second, #[], 0⟩ k c r =
      Store.within ⟨first, #[], 0⟩ k c r ++ Store.within ⟨second, #[], 0⟩ k c r := by
    intro k c r
    rw [Store.within, Array.toList_append, List.filter_append]
    rfl
  simp only [found_eq, hwithin, List.map_append, List.sum_append, Moments.ofList_append]
  rfl

lemma foldl_found (r : StarRecord ℝ) {rest : List (Array (Particle ℝ))}
    (h : whole.toList ~ (first :: rest).flatMap (·.toList)) :
    rest.foldl (fun r ps => r.merge .add (q.found cosmology maxRadius ps))
        (r.merge .replace (q.found cosmology maxRadius first)) =
      r.merge .replace (q.found cosmology maxRadius whole) := by
  induction rest generalizing first with
  | nil =>
    rw [List.flatMap_singleton] at h
    rw [List.foldl_nil, found_perm cosmology maxRadius q h]
  | cons second rest ih =>
    -- the first two parts are one part with a tree over both
    rw [List.foldl_cons, StarRecord.merge_replace_add, ← found_append]
    apply ih
    simpa using h

end

/-- However the particles are divided, and whichever part comes first and in whatever order the
others follow, a record that takes the first part in place of what it held and adds the others holds
in the end what one search of all particles finds, and has kept its bracket and dispersion. -/
theorem parts_add_up (cosmology : Cosmology ℝ) (maxRadius : ℝ) (q : StarQuery ℝ)
    (r : StarRecord ℝ) {whole first : Array (Particle ℝ)} {rest : List (Array (Particle ℝ))}
    (h : whole.toList ~ (first :: rest).flatMap (·.toList)) :
    let walk := surveyWalk cosmology maxRadius
    let found (ps : Array (Particle ℝ)) := walk.gather (.build ps) ps q
    let parted := rest.foldl (fun r ps => walk.reduce .add r (found ps))
      (walk.reduce .replace r (found first))
    parted = walk.reduce .replace r (found whole) ∧
      parted.around = found whole ∧
      parted.bracket = r.bracket ∧ parted.dispersion = r.dispersion := by
  intro walk found parted
  have hparted : parted = r.merge .replace (found whole) := foldl_found cosmology maxRadius q r h
  rw [hparted]
  exact ⟨rfl, congrArg StarRecord.around (r.merge_replace _), rfl, rfl⟩

noncomputable def heavyGas : Particle ℝ :=
  .new 1 .gas 5.0 0 0 1

noncomputable def fastMatter : Particle ℝ :=
  .new 2 .darkMatter 1 0 ⟨3.0, 0, 0⟩ 0

/-- A record that still holds what an earlier round has found. -/
noncomputable def staleRecord : StarRecord ℝ :=
  ⟨.ofHsml 1, ⟨7.0, ⟨9, 0, 4.0⟩⟩, 1⟩

theorem parts_add_up_gasAndMatter :
    let walk := surveyWalk (.still : Cosmology ℝ) 0
    let found (ps : Array (Particle ℝ)) :=
      walk.gather (.build ps) ps ⟨.new 3 .star 1 0 0 1, .ofHsml 1⟩
    let parted := walk.reduce .add
      (walk.reduce .replace staleRecord (found #[fastMatter])) (found #[heavyGas])
    parted.around = ⟨5, ⟨1, ⟨3, 0, 0⟩, 9⟩⟩ ∧ parted.dispersion = 1 := by
  intro walk found parted
  have hparts : #[heavyGas, fastMatter].toList ~
      [#[fastMatter], #[heavyGas]].flatMap (·.toList) := .swap _ _ []
  obtain ⟨-, haround, -, hdispersion⟩ := parts_add_up .still 0
    ⟨.new 3 .star 1 0 0 1, .ofHsml 1⟩ staleRecord hparts
  have hhere : ((0 : Vec ℝ) - 0).norm = 0 := by
    simp [Vec.norm_real, Vec.normSq_real]
  have hgas : Store.within ⟨#[heavyGas, fastMatter], #[], 0⟩ .gas 0 1 = [heavyGas] := by
    simp [Store.within, heavyGas, fastMatter, Particle.new, hhere]
  have hdark : Store.within ⟨#[heavyGas, fastMatter], #[], 0⟩ .darkMatter 0 (2.0 * 1) =
      [fastMatter] := by
    have hreach : (0 : ℝ) ≤ 2.0 := by norm_num
    simp [Store.within, heavyGas, fastMatter, Particle.new, hhere, hreach]
  refine ⟨haround.trans ((found_eq .still 0 _ #[heavyGas, fastMatter]).trans ?_), hdispersion⟩
  simp only [Particle.new, StarRecord.ofHsml, Bracket.ofHsml, hgas, hdark, Moments.ofList_real]
  norm_num [heavyGas, fastMatter, Particle.new, Vec.normSq_real, Vec.add_def, Vec.sub_def, Vec.map,
    Cosmology.still, Cosmology.hubbleFlow]

end GalacticWinds
