import GalacticWinds.Wind.Selection
import Mathlib.Tactic

/-! Which texts select a wind model, and which one. The words are read one after another, with
early exits; but what is read depends on the set of words alone. -/

namespace GalacticWinds

def KineticModel.words : KineticModel → List String
  | .fixedEfficiency => ["fixed-efficiency", "fixedefficiency", "vs08", "sh03"]
  | .haloDispersion => ["halo", "use-halo", "halo-dispersion", "ofjt10"]

namespace Selection

def knownWords : List String :=
  KineticModel.fixedEfficiency.words ++ KineticModel.haloDispersion.words ++
    ["subgrid", "decouple-hydro", "decouple"]

/-- The pieces of a text between separators, in lower case, without the empty ones. -/
def pieces (text : String) : List String :=
  ((text.toList.splitOnP isSeparator).filter (· ≠ [])).map fun w =>
    String.ofList (w.map Char.toLower)

structure Grammatical (ws : List String) : Prop where
  known : ∀ w ∈ ws, w ∈ knownWords
  named : ∃ k : KineticModel, ∃ w ∈ ws, w ∈ k.words
  agreed : ∀ v ∈ ws, ∀ w ∈ ws, ∀ k l : KineticModel, v ∈ k.words → w ∈ l.words → k = l

lemma cut_eq_splitOnP (cs : List Char) : cut cs = cs.splitOnP isSeparator := by
  induction cs with
  | nil => rw [cut, List.splitOnP_nil]
  | cons c cs ih =>
    rw [cut, List.splitOnP_cons_eq_if_modifyHead, ih]
    split_ifs
    · rfl
    · obtain ⟨w, ws, hws⟩ := List.exists_cons_of_ne_nil (List.splitOnP_ne_nil isSeparator cs)
      rw [hws]
      rfl

/-- The bar, the comma, and what Unicode counts as white space. -/
theorem isSeparator_iff (c : Char) :
    isSeparator c = true ↔ c = '|' ∨ c = ',' ∨ (0x9 ≤ c.toNat ∧ c.toNat ≤ 0xD) ∨
      (0x2000 ≤ c.toNat ∧ c.toNat ≤ 0x200A) ∨
      c.toNat ∈ [0x20, 0x85, 0xA0, 0x1680, 0x2028, 0x2029, 0x202F, 0x205F, 0x3000] := by
  have hblank : isBlank c = true ↔ (0x9 ≤ c.toNat ∧ c.toNat ≤ 0xD) ∨
      (0x2000 ≤ c.toNat ∧ c.toNat ≤ 0x200A) ∨
      c.toNat ∈ [0x20, 0x85, 0xA0, 0x1680, 0x2028, 0x2029, 0x202F, 0x205F, 0x3000] := by
    simp only [isBlank, blankRanges, List.any_cons, List.any_nil, Bool.or_eq_true,
      Bool.and_eq_true, decide_eq_true_eq, Bool.or_false, List.mem_cons, List.not_mem_nil, or_false]
    omega
  rw [isSeparator, Bool.or_eq_true, Bool.or_eq_true, decide_eq_true_iff, decide_eq_true_iff,
    hblank, or_assoc]

lemma isSeparator_toLower (c : Char) : isSeparator c.toLower = isSeparator c := by
  by_cases h : c.val ≥ 'A'.val ∧ c.val ≤ 'Z'.val
  · have hc : c = Char.ofNat c.toNat := (Char.ofNat_toNat c).symm
    have hlo : 65 ≤ c.toNat := h.1
    have hhi : c.toNat ≤ 90 := h.2
    rw [hc]
    generalize c.toNat = n at hlo hhi
    interval_cases n <;> rfl
  · have hlower : c.toLower = c := dif_neg h
    rw [hlower]

lemma splitOnP_map {α β : Type} {f : α → β} {p : β → Bool} {q : α → Bool}
    (h : ∀ a, p (f a) = q a) (xs : List α) :
    (xs.map f).splitOnP p = (xs.splitOnP q).map (List.map f) := by
  induction xs with
  | nil => rfl
  | cons x xs ih =>
    rw [List.map_cons, List.splitOnP_cons_eq_if_modifyHead, List.splitOnP_cons_eq_if_modifyHead,
      h, ih]
    split_ifs
    · rfl
    · obtain ⟨w, ws, hws⟩ := List.exists_cons_of_ne_nil (List.splitOnP_ne_nil q xs)
      rw [hws]
      rfl

lemma pieces_eq_toLower (text : String) :
    pieces text =
      ((text.toLower.toList.splitOnP isSeparator).filter (· ≠ [])).map String.ofList := by
  have hlower : text.toLower.toList = text.toList.map Char.toLower := String.toList_map
  rw [hlower, splitOnP_map isSeparator_toLower, List.filter_map, List.map_map, pieces]
  simp [Function.comp_def]

lemma pieces_separated (left right : String) {c : Char} (hc : isSeparator c = true) :
    pieces (left ++ String.singleton c ++ right) = pieces left ++ pieces right := by
  have hlist : (left ++ String.singleton c ++ right).toList = left.toList ++ c :: right.toList := by
    simp
  rw [pieces, hlist, List.splitOnP_append_cons _ _ hc, List.filter_append, List.map_append]
  rfl

lemma map_keyword?_words (text : String) :
    (words text).map keyword? = (pieces text).map fun w => vocabulary.lookup w := by
  rw [words, cut_eq_splitOnP, pieces, List.map_map]
  rfl

lemma lookup_eq_some_iff {β : Type} {w : String} {v : β} {dictionary : List (String × β)}
    (h : (dictionary.map Prod.fst).Nodup) :
    dictionary.lookup w = some v ↔ (w, v) ∈ dictionary := by
  induction dictionary with
  | nil => simp
  | cons entry dictionary ih =>
    obtain ⟨u, x⟩ := entry
    rw [List.map_cons, List.nodup_cons] at h
    by_cases hw : w = u
    · subst hw
      have hnot : (w, v) ∉ dictionary := fun hmem => h.1 (List.mem_map.mpr ⟨_, hmem, rfl⟩)
      simp [hnot, eq_comm]
    · have hbeq : (w == u) = false := beq_eq_false_iff_ne.mpr hw
      simp [List.lookup_cons, hbeq, hw, ih h.2]

lemma lookup_vocabulary {w : String} {k : Keyword} :
    vocabulary.lookup w = some k ↔ (w, k) ∈ vocabulary :=
  lookup_eq_some_iff (by decide)

lemma lookup_kinetic {w : String} {k : KineticModel} :
    vocabulary.lookup w = some (.kinetic k) ↔ w ∈ k.words := by
  rw [lookup_vocabulary]
  cases k <;> simp [vocabulary, KineticModel.words]

lemma lookup_subgrid {w : String} : vocabulary.lookup w = some .subgrid ↔ w = "subgrid" := by
  rw [lookup_vocabulary]
  simp [vocabulary]

lemma lookup_decouples {w : String} :
    vocabulary.lookup w = some .decouples ↔ w = "decouple-hydro" ∨ w = "decouple" := by
  rw [lookup_vocabulary]
  simp [vocabulary]

lemma lookup_eq_none_iff {w : String} : vocabulary.lookup w = none ↔ w ∉ knownWords := by
  rw [List.lookup_eq_none_iff]
  simp [vocabulary, knownWords, KineticModel.words]

namespace Draft

/-- One draft follows from another by these keywords, in whatever order they are read. -/
@[mk_iff]
structure Reads (d : Draft) (ks : List (Option Keyword)) (e : Draft) : Prop where
  known : none ∉ ks
  kinetic : ∀ k, e.kinetic = some k ↔ d.kinetic = some k ∨ some (.kinetic k) ∈ ks
  subgrid : e.subgrid = true ↔ d.subgrid = true ∨ some .subgrid ∈ ks
  decouples : e.decouples = true ↔ d.decouples = true ∨ some .decouples ∈ ks

lemma reads_nil (d : Draft) : d.Reads [] d := by
  constructor <;> simp

lemma Reads.unique {d e e' : Draft} {ks : List (Option Keyword)} (h : d.Reads ks e)
    (h' : d.Reads ks e') : e = e' := by
  obtain ⟨kinetic, subgrid, decouples⟩ := e
  obtain ⟨kinetic', subgrid', decouples'⟩ := e'
  have hk : kinetic = kinetic' := Option.ext fun k => (h.kinetic k).trans (h'.kinetic k).symm
  have hs : subgrid = subgrid' := Bool.eq_iff_iff.mpr (h.subgrid.trans h'.subgrid.symm)
  have hd : decouples = decouples' := Bool.eq_iff_iff.mpr (h.decouples.trans h'.decouples.symm)
  rw [hk, hs, hd]

lemma reads_of_add? {d e : Draft} {k : Keyword} (h : d.add? k = some e) :
    d.Reads [some k] e := by
  cases k with
  | kinetic k =>
    rw [add?] at h
    split_ifs at h with hall
    cases h
    rw [Option.all_eq_true] at hall
    constructor <;> simp
    intro l
    refine ⟨fun hl => .inr hl.symm, ?_⟩
    rintro (hl | rfl)
    · exact (of_decide_eq_true (hall l hl)).symm
    · rfl
  | subgrid =>
    cases h
    constructor <;> simp
  | decouples =>
    cases h
    constructor <;> simp

lemma exists_add? {d e : Draft} {k : Keyword} {ks : List (Option Keyword)}
    (h : d.Reads (some k :: ks) e) : ∃ d', d.add? k = some d' := by
  cases k with
  | kinetic k =>
    have hall : d.kinetic.all (· = k) = true := by
      rw [Option.all_eq_true]
      intro l hl
      have hek := (h.kinetic k).mpr (.inr List.mem_cons_self)
      have hel := (h.kinetic l).mpr (.inl hl)
      exact decide_eq_true (Option.some.inj (hel.symm.trans hek))
    exact ⟨_, if_pos hall⟩
  | subgrid => exact ⟨_, rfl⟩
  | decouples => exact ⟨_, rfl⟩

lemma reads_cons_iff {d d' e : Draft} {k : Keyword} {ks : List (Option Keyword)}
    (h : d.add? k = some d') : d.Reads (some k :: ks) e ↔ d'.Reads ks e := by
  have hd := reads_of_add? h
  constructor
  · intro he
    constructor
    · exact fun hnone => he.known (List.mem_cons_of_mem _ hnone)
    · simp [he.kinetic, hd.kinetic, or_assoc]
    · simp [he.subgrid, hd.subgrid, or_assoc]
    · simp [he.decouples, hd.decouples, or_assoc]
  · intro he
    constructor
    · simpa using he.known
    · simp [he.kinetic, hd.kinetic, or_assoc]
    · simp [he.subgrid, hd.subgrid, or_assoc]
    · simp [he.decouples, hd.decouples, or_assoc]

lemma read?_eq_some_iff {d e : Draft} {ws : List (List Char)} :
    d.read? ws = some e ↔ d.Reads (ws.map keyword?) e := by
  induction ws generalizing d with
  | nil =>
    rw [read?, Option.some.injEq]
    constructor
    · rintro rfl
      exact reads_nil d
    · exact fun h => (reads_nil d).unique h
  | cons w ws ih =>
    rw [read?, List.map_cons]
    cases keyword? w with
    | none => simpa using fun h : Reads d _ e => h.known List.mem_cons_self
    | some k =>
      cases hd : d.add? k with
      | none =>
        simp only [hd]
        refine iff_of_false (by simp) fun h => ?_
        obtain ⟨d', hd'⟩ := exists_add? h
        simp [hd] at hd'
      | some d' =>
        simp only [hd]
        exact ih.trans (reads_cons_iff hd).symm

lemma selection?_eq_some_iff {d : Draft} {s : Selection} :
    d.selection? = some s ↔ d = ⟨some s.kinetic, s.subgrid, s.decouples⟩ := by
  obtain ⟨kinetic, subgrid, decouples⟩ := d
  obtain ⟨k, b, c⟩ := s
  cases kinetic <;> simp [selection?]

end Draft

/-- What a selection must be for these words. -/
@[mk_iff]
structure Says (ws : List String) (s : Selection) : Prop where
  known : ∀ w ∈ ws, w ∈ knownWords
  kinetic : ∀ k, s.kinetic = k ↔ ∃ w ∈ ws, w ∈ k.words
  subgrid : s.subgrid = true ↔ "subgrid" ∈ ws
  decouples : s.decouples = true ↔ "decouple-hydro" ∈ ws ∨ "decouple" ∈ ws

lemma Says.congr {vs ws : List String} {s : Selection} (hmem : ∀ w, w ∈ vs ↔ w ∈ ws)
    (h : Says ws s) : Says vs s where
  known w hw := h.known w ((hmem w).mp hw)
  kinetic k := by simp only [hmem, h.kinetic]
  subgrid := by rw [hmem, h.subgrid]
  decouples := by rw [hmem, hmem, h.decouples]

lemma grammatical_iff {ws : List String} : Grammatical ws ↔ ∃ s, Says ws s := by
  constructor
  · intro h
    obtain ⟨k, w, hw, hk⟩ := h.named
    refine ⟨⟨k, decide ("subgrid" ∈ ws), decide ("decouple-hydro" ∈ ws ∨ "decouple" ∈ ws)⟩,
      h.known, fun l => ⟨?_, ?_⟩, by simp, by simp⟩
    · rintro rfl
      exact ⟨w, hw, hk⟩
    · rintro ⟨v, hv, hl⟩
      exact h.agreed w hw v hv k l hk hl
  · rintro ⟨s, h⟩
    have hk : ∀ w ∈ ws, ∀ k : KineticModel, w ∈ k.words → s.kinetic = k :=
      fun w hw k hwk => (h.kinetic k).mpr ⟨w, hw, hwk⟩
    exact ⟨h.known, ⟨s.kinetic, (h.kinetic s.kinetic).mp rfl⟩,
      fun v hv w hw k l hvk hwl => (hk v hv k hvk).symm.trans (hk w hw l hwl)⟩

lemma reads_start_iff {ws : List String} {s : Selection} :
    Draft.start.Reads (ws.map fun w => vocabulary.lookup w)
      ⟨some s.kinetic, s.subgrid, s.decouples⟩ ↔ Says ws s := by
  rw [Draft.reads_iff, says_iff]
  refine and_congr ?_ (and_congr ?_ (and_congr ?_ ?_))
  · simp only [List.mem_map, lookup_eq_none_iff, not_exists, not_and, not_not]
  · simp [Draft.start, lookup_kinetic]
  · simp [Draft.start, lookup_subgrid]
  · simp [Draft.start, lookup_decouples, and_or_left, exists_or]

lemma ofString?_eq_some_iff {text : String} {s : Selection} :
    ofString? text = some s ↔ Says (pieces text) s := by
  rw [ofString?, Option.bind_eq_some_iff, ← reads_start_iff, ← map_keyword?_words]
  simp only [Draft.selection?_eq_some_iff, exists_eq_right, Draft.read?_eq_some_iff]

section

variable {α : Type} (text : String)

lemma parse_eq_ok_iff {s : Selection} :
    (parse text : Except (Failure α) Selection) = .ok s ↔ Says (pieces text) s := by
  rw [← ofString?_eq_some_iff, parse]
  cases ofString? text <;> simp

lemma toOption_parse : (parse text : Except (Failure α) Selection).toOption = ofString? text := by
  rw [parse]
  cases ofString? text <;> rfl

lemma parse_of_ofString?_none (h : ofString? text = none) :
    (parse text : Except (Failure α) Selection) = .error (.unsupportedModel text) := by
  rw [parse, h]

end

/-- A text selects a model exactly when each of its words is known and one or more of them name
kinetic models, all of them the same; the words tell the model and the options. Any other text is
refused, and named in the refusal. So nothing but the set of words has a part in the answer, and
neither case nor the number of separators has a part in the words. -/
theorem parse_grammar {α : Type} (text : String) :
    ((∃ s, (parse text : Except (Failure α) Selection) = .ok s) ↔ Grammatical (pieces text)) ∧
    (∀ s, (parse text : Except (Failure α) Selection) = .ok s →
      (∀ k, s.kinetic = k ↔ ∃ w ∈ pieces text, w ∈ k.words) ∧
      (s.subgrid = true ↔ "subgrid" ∈ pieces text) ∧
      (s.decouples = true ↔ "decouple-hydro" ∈ pieces text ∨ "decouple" ∈ pieces text)) ∧
    (¬Grammatical (pieces text) →
      (parse text : Except (Failure α) Selection) = .error (.unsupportedModel text)) ∧
    (∀ other, (∀ w, w ∈ pieces other ↔ w ∈ pieces text) →
      (parse other : Except (Failure α) Selection).toOption =
        (parse text : Except (Failure α) Selection).toOption) ∧
    (∀ other, other.toLower = text.toLower → pieces other = pieces text) ∧
    ∀ left right c, isSeparator c = true →
      pieces (left ++ String.singleton c ++ right) = pieces left ++ pieces right := by
  simp only [parse_eq_ok_iff, toOption_parse]
  refine ⟨grammatical_iff.symm, fun s h => ⟨h.kinetic, h.subgrid, h.decouples⟩,
    fun h => ?_, fun other hmem => ?_, fun other hlower => ?_, fun left right c hc => ?_⟩
  · apply parse_of_ofString?_none
    rw [Option.eq_none_iff_forall_ne_some]
    intro s hs
    exact h (grammatical_iff.mpr ⟨s, ofString?_eq_some_iff.mp hs⟩)
  · apply Option.ext
    intro s
    rw [ofString?_eq_some_iff, ofString?_eq_some_iff]
    exact ⟨.congr fun w => (hmem w).symm, .congr hmem⟩
  · rw [pieces_eq_toLower, pieces_eq_toLower, hlower]
  · exact pieces_separated left right hc

example : ofString? "Halo, HALO|use-halo\tdecouple" = some ⟨.haloDispersion, false, true⟩ := by
  decide +kernel

end Selection

end GalacticWinds
