import ScriptGate.AllowList
import ScriptGate.Proofs.Pattern.Groups
import ScriptGate.Proofs.Pattern.Matches

/-!
# `ScriptGate.Proofs.AllowList`: what an allow-list approves

A text that is a pattern by itself becomes that pattern between two anchors
(`parse?_anchored`), and approves exactly the locators that it matches as a
whole (`isMatch_enclosed_iff`).

A text can also be no pattern by itself and become one in its group, when it
closes the group and opens another one. Its alternatives then stand outside the
anchors, and a match of one of them anywhere in the locator is enough
(`closed_group_approves`). `approved_iff` says what a list approves in either
case.
-/

set_option autoImplicit false

namespace ScriptGate

namespace Pattern

/-- A pattern between the beginning and the end of the text. -/
def enclosed (q : Pattern) : Pattern := .seq (.seq (.assert .textStart) q) (.assert .textEnd)

/-! ### Matches between anchors -/

/-- The text begins at the first place and nowhere else. -/
theorem holdsAt_textStart_iff {input : Input} {i : Nat} (hi : i ≤ input.size) :
    holdsAt input i .textStart = true ↔ i = 0 := by
  unfold holdsAt
  simp only [Assertion.holds]
  by_cases hzero : i = 0
  · simp [hzero]
  · rw [if_neg hzero]
    simp only [hzero, iff_false]
    rw [Option.isNone_iff_eq_none, Array.getElem?_eq_none_iff]
    omega

/-- The text ends at the last place and nowhere else. -/
theorem holdsAt_textEnd_iff {input : Input} {j : Nat} (hj : j ≤ input.size) :
    holdsAt input j .textEnd = true ↔ j = input.size := by
  unfold holdsAt
  simp only [Assertion.holds]
  rw [Option.isNone_iff_eq_none, Array.getElem?_eq_none_iff]
  omega

/-- Between the anchors only the whole text matches. -/
theorem matches_enclosed_iff {input : Input} {q : Pattern} {i j : Nat} (hi : i ≤ input.size) :
    Matches input q.enclosed i j ↔ i = 0 ∧ j = input.size ∧ Matches input q 0 input.size := by
  simp only [enclosed, Matches]
  constructor
  · rintro ⟨k, ⟨_, ⟨rfl, hstart⟩, hq⟩, rfl, hend⟩
    obtain rfl := (holdsAt_textStart_iff hi).mp hstart
    obtain rfl := (holdsAt_textEnd_iff (hq.le hi).2).mp hend
    exact ⟨rfl, rfl, hq⟩
  · rintro ⟨rfl, rfl, hq⟩
    exact ⟨input.size, ⟨0, ⟨rfl, (holdsAt_textStart_iff hi).mpr rfl⟩, hq⟩, rfl,
      (holdsAt_textEnd_iff (Nat.le_refl _)).mpr rfl⟩

/-- The anchors change nothing about matches of the whole text. -/
theorem matchesAll_enclosed_iff {q : Pattern} {t : Text} :
    q.enclosed.MatchesAll t ↔ q.MatchesAll t := by
  unfold MatchesAll
  rw [matches_enclosed_iff (Nat.zero_le _), List.size_toArray]
  exact ⟨fun h => h.2.2, fun h => ⟨rfl, rfl, h⟩⟩

/-- A match anywhere is one of the whole text. -/
theorem isMatch_enclosed_iff {q : Pattern} {t : Text} :
    q.enclosed.isMatch t = true ↔ q.MatchesAll t := by
  rw [isMatch_iff]
  constructor
  · rintro ⟨i, j, hi, h⟩
    exact ((matches_enclosed_iff hi).mp h).2.2
  · intro h
    exact ⟨0, t.length, Nat.zero_le _, matchesAll_enclosed_iff.mpr h⟩

/-- A match of the whole text is a match. -/
theorem MatchesAll.isMatch {p : Pattern} {t : Text} (h : p.MatchesAll t) : p.isMatch t = true :=
  isMatch_iff.mpr ⟨0, t.length, Nat.zero_le _, h⟩

/-! ### Reading a text between anchors -/

/-- What stands before the group and in it is read first. -/
theorem readSequence_anchored (n : Nat) (t : Text) :
    readSequence {} [] (n + 2) ('^' :: '(' :: '?' :: ':' :: t) =
      match readAlternatives {} [] n t with
      | some (p, inner, ')' :: rest) =>
        readOn { names := inner.names } [⟨.assert .textStart, 0⟩] n ⟨p.pattern, p.depth + 1⟩ rest
      | _ => none := rfl

/-- The dollar sign is the end. -/
theorem readOn_dollar (names : List Text) (p q : Part) (n : Nat) :
    readOn { names := names } [p] (n + 2) q ['$'] =
      some (Part.ofSequence [p, q, ⟨.assert .textEnd, 0⟩], { names := names }, []) := rfl

/-- A text that is a pattern by itself is the same pattern between the
anchors. -/
theorem parse?_anchored {text : Text} {p q : Pattern} (hq : parse? text = some q)
    (hp : parse? (AllowList.anchored text) = some p) : p = q.enclosed := by
  unfold parse? at hq
  split at hq
  · rename_i part s hread
    split at hq
    · cases hq
      have hfuel : 2 * text.length + 2 ≤ 2 * text.length + 11 := by omega
      have hextends : Extends text (text ++ closing) := Or.inl rfl
      obtain ⟨r, hr, hread'⟩ := prolongs_readAlternatives hfuel {} [] hextends hread
      have htext : AllowList.anchored text = '^' :: '(' :: '?' :: ':' :: (text ++ closing) := rfl
      have hlength : 2 * (AllowList.anchored text).length + 2 = 2 * text.length + 11 + 2 + 1 := by
        simp [AllowList.anchored]
        omega
      unfold parse? at hp
      rw [hlength, htext, readAlternatives, readSequence_anchored, hread'] at hp
      rcases hr with rfl | rfl
      · simp only [closing, List.nil_append, readOn_dollar] at hp
        split at hp
        · cases hp
          rfl
        · cases hp
      · -- A comment has taken the end in, so the group is never closed.
        simp at hp
    · cases hq
  · cases hq

end Pattern

/-! ### The list -/

namespace AllowList

/-- Every text of an accepted list has its pattern, in the same order. -/
theorem forall₂_of_ofTexts {texts : List Text} {l : AllowList} (h : ofTexts texts = .ok l) :
    List.Forall₂ (fun text p => anchoredPattern text = .ok p) texts l.patterns := by
  obtain ⟨patterns⟩ := l
  induction texts generalizing patterns with
  | nil =>
      cases h
      exact List.Forall₂.nil
  | cons text texts ih =>
      unfold ofTexts at h ih
      rw [List.mapM_cons] at h
      cases hp : anchoredPattern text with
      | error e =>
          rw [hp] at h
          cases h
      | ok p =>
          cases hps : texts.mapM anchoredPattern with
          | error e =>
              rw [hp, hps] at h
              cases h
          | ok ps =>
              rw [hp, hps] at h
              cases h
              exact List.Forall₂.cons hp (ih ps (by rw [hps]; rfl))

/-- Every text of an allow-list has its pattern in it. -/
theorem exists_pattern_of_mem {texts : List Text} {ps : List Pattern}
    (h : List.Forall₂ (fun text p => anchoredPattern text = .ok p) texts ps) {text : Text}
    (hmem : text ∈ texts) : ∃ p ∈ ps, anchoredPattern text = .ok p := by
  induction h with
  | nil => cases hmem
  | cons hp _ ih =>
      rcases List.mem_cons.mp hmem with rfl | hmem
      · exact ⟨_, List.mem_cons_self, hp⟩
      · obtain ⟨p, hmem, hp⟩ := ih hmem
        exact ⟨p, List.mem_cons_of_mem _ hmem, hp⟩

/-- Every pattern of an allow-list comes from one of its texts. -/
theorem exists_text_of_mem {texts : List Text} {ps : List Pattern}
    (h : List.Forall₂ (fun text p => anchoredPattern text = .ok p) texts ps) {p : Pattern}
    (hmem : p ∈ ps) : ∃ text ∈ texts, anchoredPattern text = .ok p := by
  induction h with
  | nil => cases hmem
  | cons hp _ ih =>
      rcases List.mem_cons.mp hmem with rfl | hmem
      · exact ⟨_, List.mem_cons_self, hp⟩
      · obtain ⟨text, hmem, hp⟩ := ih hmem
        exact ⟨text, List.mem_cons_of_mem _ hmem, hp⟩

/-- A text that is a pattern by itself is that pattern between the anchors. -/
theorem anchoredPattern_eq {text : Text} {p q : Pattern} (hq : Pattern.parse? text = some q)
    (hp : anchoredPattern text = .ok p) : p = q.enclosed := by
  unfold anchoredPattern at hp
  split at hp
  · rename_i hparse
    cases hp
    exact Pattern.parse?_anchored hq hparse
  · cases hp

/-- **What an allow-list approves.** A text that is a pattern by itself approves
the locators that it matches as a whole. A text that is none approves those in
which its anchored pattern matches somewhere. If there are only texts of the
first kind, an approved locator is matched as a whole by one of the patterns of
the list. -/
theorem approved_iff {texts : List Text} {l : AllowList} (h : ofTexts texts = .ok l)
    (locator : Text) :
    (l.isApproved locator = true ↔
      (∃ text ∈ texts, ∃ q, Pattern.parse? text = some q ∧ q.MatchesAll locator) ∨
      ∃ text ∈ texts, Pattern.parse? text = none ∧
        ∃ p, anchoredPattern text = .ok p ∧ p.isMatch locator = true) ∧
    ((∀ text ∈ texts, Pattern.parse? text ≠ none) →
      (l.isApproved locator = true ↔ ∃ p ∈ l.patterns, p.MatchesAll locator)) := by
  have hpatterns := forall₂_of_ofTexts h
  have happroved : l.isApproved locator = true ↔
      ∃ p ∈ l.patterns, p.isMatch locator = true := List.any_eq_true
  refine ⟨?_, fun hall => ?_⟩
  · rw [happroved]
    constructor
    · rintro ⟨p, hp, hmatch⟩
      obtain ⟨text, htext, hp⟩ := exists_text_of_mem hpatterns hp
      -- The pattern comes from a text, and that is a pattern by itself or not.
      cases hq : Pattern.parse? text with
      | none => exact Or.inr ⟨text, htext, hq, p, hp, hmatch⟩
      | some q =>
          rw [anchoredPattern_eq hq hp, Pattern.isMatch_enclosed_iff] at hmatch
          exact Or.inl ⟨text, htext, q, hq, hmatch⟩
    · rintro (⟨text, htext, q, hq, hmatch⟩ | ⟨text, htext, -, p, hp, hmatch⟩)
      · obtain ⟨p, hmem, hp⟩ := exists_pattern_of_mem hpatterns htext
        refine ⟨p, hmem, ?_⟩
        rwa [anchoredPattern_eq hq hp, Pattern.isMatch_enclosed_iff]
      · obtain ⟨p', hmem, hp'⟩ := exists_pattern_of_mem hpatterns htext
        obtain rfl : p' = p := Except.ok.inj (hp'.symm.trans hp)
        exact ⟨p', hmem, hmatch⟩
  · rw [happroved]
    refine exists_congr fun p => and_congr_right fun hp => ?_
    obtain ⟨text, htext, hp⟩ := exists_text_of_mem hpatterns hp
    obtain ⟨q, hq⟩ := Option.ne_none_iff_exists'.mp (hall text htext)
    rw [anchoredPattern_eq hq hp, Pattern.isMatch_enclosed_iff, Pattern.matchesAll_enclosed_iff]

/-- Alternatives inside the group stay between the anchors. -/
theorem approved_iff_alternatives :
    let q : Pattern := .alt (.seq (.char (.single 'a'))
      (.rep 0 none true (.char (.complement (.single '\n'))))) (.char (.single 'b'))
    ofTexts ["a.*|b".toList] = .ok ⟨[q.enclosed]⟩ ∧
      isApproved ⟨[q.enclosed]⟩ "axyz".toList = true ∧
      ∃ p ∈ [q.enclosed], p.MatchesAll "axyz".toList := by
  intro q
  have hlist : ofTexts ["a.*|b".toList] = .ok ⟨[q.enclosed]⟩ := by decide
  have hall : ∀ text ∈ ["a.*|b".toList], Pattern.parse? text ≠ none := by decide
  obtain ⟨hiff, hwhole⟩ := approved_iff hlist "axyz".toList
  have happroved : isApproved ⟨[q.enclosed]⟩ "axyz".toList = true :=
    hiff.mpr (Or.inl ⟨_, List.mem_cons_self, q, by decide, by decide⟩)
  exact ⟨hlist, happroved, (hwhole hall).mp happroved⟩

/-- A text that closes its group approves a locator of which it matches only the
beginning. -/
theorem closed_group_approves :
    ∃ l, ofTexts ["a)|(?:b".toList] = .ok l ∧ l.isApproved "axyz".toList = true ∧
      ¬ ∃ p ∈ l.patterns, p.MatchesAll "axyz".toList := by
  refine ⟨⟨[.alt (.seq (.assert .textStart) (.char (.single 'a')))
    (.seq (.char (.single 'b')) (.assert .textEnd))]⟩, by decide, by decide, ?_⟩
  decide

end AllowList
end ScriptGate
