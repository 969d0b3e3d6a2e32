import Mathlib.Tactic.Common
import Transcript.Proofs.Pattern.Groups
import Transcript.Proofs.Script.Patterns

/-!
# Fields that patterns find

What the pattern of a kind finds in a line are the fields behind its letter (`Kind.find?_eq`): words and
gaps are taken as a whole, and a definition can be taken apart in one way only. Where it finds nothing,
there are no fields (`Kind.of_find?`). So patterns that are tried in any order read what the first letter
says (`Reader.nextBy_eq`).
-/

namespace Transcript.Script

open Pattern (Expr Look Spot groupText groupText_eq drop_run drop_cons)
open Text (isBlank isAllBlank trim trimStart trimEnd)

section Parts

variable {s skipped w rest : List Char} {a b : Spot} {index : Nat}

/-- Blank characters are skipped up to the first other one. -/
lemma skip_first (split : s.drop a.pos = skipped ++ rest) (blank : ∀ c ∈ skipped, isBlank c = true)
    (stop : ∀ c ∈ rest.head?, isBlank c = false) :
    skipExpr.MatchesFirst s.toArray a ⟨a.pos + skipped.length, a.saved⟩ := by
  refine Expr.matchesFirst_repeat_set split (Nat.zero_le _) ?_ ?_ <;>
    simpa only [contains_blankSet]

/-- A gap is left behind as a whole. -/
lemma gap_first (split : s.drop a.pos = skipped ++ rest) (some : skipped ≠ [])
    (blank : ∀ c ∈ skipped, isBlank c = true) (stop : ∀ c ∈ rest.head?, isBlank c = false) :
    (Expr.repeat 1 none true (.set blankSet)).MatchesFirst s.toArray a
      ⟨a.pos + skipped.length, a.saved⟩ := by
  refine Expr.matchesFirst_repeat_set split (List.length_pos_iff.2 some) ?_ ?_ <;>
    simpa only [contains_blankSet]

/-- A word is taken as a whole. -/
lemma word_first (split : s.drop a.pos = w ++ rest) (isWord : IsWord w)
    (stop : ∀ c ∈ rest.head?, isBlank c = true) :
    (wordExpr index).MatchesFirst s.toArray a
      ⟨a.pos + w.length, (2 * index + 3, a.pos + w.length) :: (2 * index + 2, a.pos) :: a.saved⟩ := by
  have way : (Expr.repeat 1 none true (.set wordSet)).MatchesFirst s.toArray (a.save (2 * index + 2)) _ :=
    Expr.matchesFirst_repeat_set split (List.length_pos_iff.2 isWord.1)
      (fun c hc => by rw [contains_wordSet, isWord.2 c hc]; rfl)
      (fun c hc => by rw [contains_wordSet, stop c hc]; rfl)
  exact ⟨_, way, rfl⟩

/-- What is skipped is blank. -/
lemma matches_skip_iff :
    skipExpr.Matches s.toArray a b ↔
      ∃ skipped, (∀ c ∈ skipped, isBlank c = true) ∧ s.drop a.pos = skipped ++ s.drop b.pos ∧
        b = ⟨a.pos + skipped.length, a.saved⟩ := by
  rw [skipExpr, Expr.matches_repeat_set_iff]
  simp only [contains_blankSet, Nat.zero_le, true_and]

/-- What a word takes are characters of a word. -/
lemma matches_word (way : (wordExpr index).Matches s.toArray a b) :
    ∃ w, IsWord w ∧ s.drop a.pos = w ++ s.drop b.pos ∧
      b = ⟨a.pos + w.length, (2 * index + 3, a.pos + w.length) :: (2 * index + 2, a.pos) :: a.saved⟩ := by
  obtain ⟨c, way, rfl⟩ := way
  obtain ⟨run, least, members, split, rfl⟩ := Expr.matches_repeat_set_iff.1 way
  refine ⟨run, ⟨List.length_pos_iff.1 least, fun c hc => ?_⟩, split, rfl⟩
  have := members c hc
  rw [contains_wordSet] at this
  simpa using this

/-- What a name takes is a name. -/
lemma matches_name_iff :
    nameExpr.Matches s.toArray a b ↔
      ∃ name, IsName name ∧ s.drop a.pos = name ++ s.drop b.pos ∧
        b = ⟨a.pos + name.length, (3, a.pos + name.length) :: (2, a.pos) :: a.saved⟩ := by
  have length (c : Char) (r : List Char) : a.pos + 1 + r.length = a.pos + (c :: r).length := by
    rw [List.length_cons]
    omega
  constructor
  · rintro ⟨_, ⟨_, first, _, others, rfl⟩, rfl⟩
    obtain ⟨c, start, split, rfl⟩ := Expr.matches_set_iff_drop.1 first
    obtain ⟨r, -, members, split', rfl⟩ := Expr.matches_repeat_set_iff.1 others
    simp only [contains_nameSet] at members
    refine ⟨c :: r, ⟨contains_nameStartSet.symm.trans start, members⟩, ?_, ?_⟩
    · rw [List.cons_append, Spot.save, ← split']
      exact split
    · simp only [Spot.save, Spot.forward, length c]
  · rintro ⟨_ | ⟨c, r⟩, isName, split, rfl⟩
    · exact isName.elim
    · obtain ⟨start, members⟩ := isName
      have behind : s.drop (a.pos + 1) = r ++ s.drop (a.pos + (c :: r).length) := drop_cons split
      have first : (Expr.set nameStartSet).Matches s.toArray (a.save 2) (a.save 2).forward :=
        Expr.matches_set_iff_drop.2 ⟨c, contains_nameStartSet.trans start, by
          rw [Spot.forward, Spot.save, behind]
          exact split, rfl⟩
      have others : (Expr.repeat 0 none true (.set nameSet)).Matches s.toArray (a.save 2).forward
          ⟨a.pos + (c :: r).length, (2, a.pos) :: a.saved⟩ :=
        Expr.matches_repeat_set_iff.2 ⟨r, Nat.zero_le _, by simpa only [contains_nameSet], behind, by
          rw [← length c]
          rfl⟩
      exact ⟨_, ⟨_, first, _, others, rfl⟩, rfl⟩

/-- What is taken of a line has no line feed. -/
lemma matches_line_iff :
    (lineExpr index).Matches s.toArray a b ↔
      ∃ line, '\n' ∉ line ∧ s.drop a.pos = line ++ s.drop b.pos ∧
        b = ⟨a.pos + line.length,
          (2 * index + 3, a.pos + line.length) :: (2 * index + 2, a.pos) :: a.saved⟩ := by
  have oneLine (line : List Char) : (∀ c ∈ line, lineSet.contains c = true) ↔ '\n' ∉ line := by
    simp only [contains_lineSet]
    exact ⟨fun others feed => others _ feed rfl, fun none c hc feed => none (feed ▸ hc)⟩
  constructor
  · rintro ⟨_, way, rfl⟩
    obtain ⟨line, -, members, split, rfl⟩ := Expr.matches_repeat_set_iff.1 way
    exact ⟨line, (oneLine line).1 members, split, rfl⟩
  · rintro ⟨line, none, split, rfl⟩
    exact ⟨⟨a.pos + line.length, (2 * index + 2, a.pos) :: a.saved⟩,
      Expr.matches_repeat_set_iff.2 ⟨line, Nat.zero_le _, (oneLine line).2 none, split, rfl⟩, rfl⟩

end Parts

/-- The letter that the lines of a kind begin with. -/
def Kind.letter : Kind → Char
  | .setTimeout => 'T'
  | .copyFile => '+'
  | .deleteFile => '-'
  | .command => '>'
  | .checkContent => '='
  | .checkAbsent => '*'
  | .checkExists => 'E'
  | .define => 'D'

/-- The fields of a line of a kind stand behind its letter. -/
def Kind.HasFields (r : List Char) (fields : List (List Char)) : Kind → Prop
  | .setTimeout | .deleteFile | .checkAbsent | .checkExists => ∃ w, FirstWord r w ∧ [w] = fields
  | .copyFile | .checkContent => ∃ v w, FirstWords r v w ∧ [v, w] = fields
  | .command => [(trimStart r).takeWhile (· ≠ '\n')] = fields
  | .define => ∃ name value, Defines r name value ∧ [name, value] = fields

/-- The fields of a line of a kind, behind its letter. -/
def Kind.fields? (r : List Char) : Kind → Option (List (List Char))
  | .setTimeout | .deleteFile | .checkAbsent | .checkExists => (word? r).map fun w => [w]
  | .copyFile | .checkContent => (twoWords? r).map fun w => [w.1, w.2]
  | .command => some [(trimStart r).takeWhile (· ≠ '\n')]
  | .define => (definition? r).map fun d => [d.1, d.2]

section Finding

variable {s r : List Char} {letter : Char}

/-- Every pattern of a line begins where the line begins. -/
lemma holds_start (s : List Char) :
    Look.start.holds (Pattern.charBefore? s.toArray 0) s.toArray[0]? = true :=
  (Pattern.holds_start_iff (Nat.zero_le _)).2 rfl

/-- A word behind a letter is found. -/
lemma oneWord_find {w} (h : word? r = some w) :
    ∃ whole, (oneWordExpr letter).find? (letter :: r) = some [whole, w] := by
  obtain ⟨skipped, rest, rfl, blank, isWord, stop⟩ := word?_eq_some_iff.1 h
  -- from here on the line is known by what is left of it at each place
  generalize text : letter :: (skipped ++ (w ++ rest)) = s
  have first : s.toArray[0]? = some letter := by rw [← text]; rfl
  have behind : s.drop 1 = skipped ++ (w ++ rest) := by rw [← text]; rfl
  generalize start : 1 + skipped.length = m
  have atWord : s.drop m = w ++ rest := start ▸ drop_run behind
  have skip : skipExpr.MatchesFirst s.toArray ⟨1, [(0, 0)]⟩ ⟨m, [(0, 0)]⟩ :=
    start ▸ skip_first behind blank (isWord.head_append rest)
  have way : (oneWordExpr letter).MatchesFirst s.toArray ⟨0, [(0, 0)]⟩
      ⟨m + w.length, [(3, m + w.length), (2, m), (0, 0)]⟩ :=
    ⟨_, ⟨holds_start s, rfl⟩, _, ⟨first, rfl⟩, _, skip, _, word_first atWord isWord stop, rfl⟩
  have taken : groupText s.toArray [(1, m + w.length), (3, m + w.length), (2, m), (0, 0)] 1 = w :=
    groupText_eq rfl rfl atWord
  rw [Expr.find?_eq_of_matchesFirst way]
  exact ⟨_, congrArg (fun g => some [_, g]) taken⟩

/-- Two words behind a letter are found. -/
lemma twoWords_find {v w} (h : twoWords? r = some (v, w)) :
    ∃ whole, (twoWordsExpr letter).find? (letter :: r) = some [whole, v, w] := by
  obtain ⟨skipped, gap, rest, rfl, blank, isWord, some, blank', isWord', stop⟩ := twoWords?_eq_some_iff.1 h
  generalize text : letter :: (skipped ++ (v ++ (gap ++ (w ++ rest)))) = s
  have first : s.toArray[0]? = .some letter := by rw [← text]; rfl
  have behind : s.drop 1 = skipped ++ (v ++ (gap ++ (w ++ rest))) := by rw [← text]; rfl
  generalize start : 1 + skipped.length = m
  have atFirst : s.drop m = v ++ (gap ++ (w ++ rest)) := start ▸ drop_run behind
  have atGap := drop_run atFirst
  generalize start' : m + v.length + gap.length = n
  have atSecond : s.drop n = w ++ rest := start' ▸ drop_run atGap
  have skip : skipExpr.MatchesFirst s.toArray ⟨1, [(0, 0)]⟩ ⟨m, [(0, 0)]⟩ :=
    start ▸ skip_first behind blank (isWord.head_append _)
  have stop' : ∀ c ∈ (gap ++ (w ++ rest)).head?, isBlank c = true := by
    obtain ⟨c, gap, rfl⟩ := List.exists_cons_of_ne_nil some
    rintro d ⟨⟩
    exact blank' c List.mem_cons_self
  have pass : (Expr.repeat 1 none true (.set blankSet)).MatchesFirst s.toArray
      ⟨m + v.length, [(3, m + v.length), (2, m), (0, 0)]⟩ ⟨n, [(3, m + v.length), (2, m), (0, 0)]⟩ :=
    start' ▸ gap_first atGap some blank' (isWord'.head_append rest)
  have way : (twoWordsExpr letter).MatchesFirst s.toArray ⟨0, [(0, 0)]⟩
      ⟨n + w.length, [(5, n + w.length), (4, n), (3, m + v.length), (2, m), (0, 0)]⟩ :=
    ⟨_, ⟨holds_start s, rfl⟩, _, ⟨first, rfl⟩, _, skip, _, word_first atFirst isWord stop', _, pass, _,
      word_first atSecond isWord' stop, rfl⟩
  have taken : groupText s.toArray
      [(1, n + w.length), (5, n + w.length), (4, n), (3, m + v.length), (2, m), (0, 0)] 1 = v :=
    groupText_eq rfl rfl atFirst
  have taken' : groupText s.toArray
      [(1, n + w.length), (5, n + w.length), (4, n), (3, m + v.length), (2, m), (0, 0)] 2 = w :=
    groupText_eq rfl rfl atSecond
  rw [Expr.find?_eq_of_matchesFirst way]
  exact ⟨_, congrArg₂ (fun g g' => Option.some [_, g, g']) taken taken'⟩

/-- What stands behind the sign of a command is found, up to the end of its line. -/
lemma command_find (r) :
    ∃ whole, commandExpr.find? ('>' :: r) = some [whole, (trimStart r).takeWhile (· ≠ '\n')] := by
  obtain ⟨split, blank, stop⟩ := exists_takeWhile isBlank r
  obtain ⟨split', inside, stop'⟩ := exists_takeWhile (· ≠ '\n') (trimStart r)
  generalize text : '>' :: r = s
  have first : s.toArray[0]? = some '>' := by rw [← text]; rfl
  have behind : s.drop 1 = r.takeWhile isBlank ++ trimStart r := by rw [← text]; exact split
  generalize start : 1 + (r.takeWhile isBlank).length = m
  have atCommand : s.drop m = trimStart r := start ▸ drop_run behind
  rw [split'] at atCommand
  generalize (trimStart r).takeWhile (· ≠ '\n') = line at inside atCommand ⊢
  have skip : skipExpr.MatchesFirst s.toArray ⟨1, [(0, 0)]⟩ ⟨m, [(0, 0)]⟩ :=
    start ▸ skip_first behind blank stop
  have rest : (Expr.repeat 0 none true (.set lineSet)).MatchesFirst s.toArray ⟨m, [(2, m), (0, 0)]⟩ _ :=
    Expr.matchesFirst_repeat_set atCommand (Nat.zero_le _)
      (fun c hc => contains_lineSet.2 (by simpa using inside c hc))
      (fun c hc => by
        have := stop' c hc
        rw [← Bool.not_eq_true, contains_lineSet]
        simpa using this)
  have way : commandExpr.MatchesFirst s.toArray ⟨0, [(0, 0)]⟩
      ⟨m + line.length, [(3, m + line.length), (2, m), (0, 0)]⟩ :=
    ⟨_, ⟨holds_start s, rfl⟩, _, ⟨first, rfl⟩, _, skip, _, ⟨_, rest, rfl⟩, rfl⟩
  have taken : groupText s.toArray [(1, m + line.length), (3, m + line.length), (2, m), (0, 0)] 1 = line :=
    groupText_eq rfl rfl atCommand
  rw [Expr.find?_eq_of_matchesFirst way]
  exact ⟨_, congrArg (fun g => some [_, g]) taken⟩

/-- What is matched behind a letter begins where the line begins. -/
lemma matches_behind {parts first b} (within : first ≤ s.length)
    (way : (Expr.concat (.look .start :: .literal [letter] :: parts)).Matches s.toArray
      ⟨first, [(0, first)]⟩ b) :
    ∃ r, s = letter :: r ∧ Expr.MatchesAll s.toArray parts ⟨1, [(0, 0)]⟩ b := by
  obtain ⟨_, ⟨here, rfl⟩, _, letters, rest⟩ := way
  obtain rfl : first = 0 := (Pattern.holds_start_iff within).1 here
  obtain ⟨split, rfl⟩ := Expr.matches_char_iff_drop.1 letters
  exact ⟨_, split, rest⟩

/-- Where a letter and a word are found, there are both. -/
lemma oneWord_found (h : ((oneWordExpr letter).find? s).isSome) :
    ∃ r, s = letter :: r ∧ (word? r).isSome := by
  obtain ⟨first, within, b, way⟩ := (Expr.find?_isSome_iff _ s).1 h
  obtain ⟨r, rfl, _, skip, _, word, -⟩ := matches_behind within way
  obtain ⟨skipped, blank, split, rfl⟩ := matches_skip_iff.1 skip
  obtain ⟨w, isWord, split', rfl⟩ := matches_word word
  -- a way may stop inside a word, but then the whole word is there as well
  obtain ⟨w', rest, more, isWord', stop⟩ := isWord.exists_word _
  refine ⟨r, rfl, Option.isSome_iff_exists.2 ⟨w', word?_eq_some_iff.2
    ⟨skipped, rest, ?_, blank, isWord', stop⟩⟩⟩
  rw [← more, ← split']
  exact split

/-- Where a letter and two words are found, there are all of them. -/
lemma twoWords_found (h : ((twoWordsExpr letter).find? s).isSome) :
    ∃ r, s = letter :: r ∧ (twoWords? r).isSome := by
  obtain ⟨first, within, b, way⟩ := (Expr.find?_isSome_iff _ s).1 h
  obtain ⟨r, rfl, _, skip, _, word, _, pass, _, word', -⟩ := matches_behind within way
  obtain ⟨skipped, blank, split, rfl⟩ := matches_skip_iff.1 skip
  obtain ⟨v, isWord, split', rfl⟩ := matches_word word
  obtain ⟨gap, some, blank', split'', rfl⟩ := Expr.matches_repeat_set_iff.1 pass
  simp only [contains_blankSet] at blank'
  obtain ⟨w, isWord', split₃, rfl⟩ := matches_word word'
  obtain ⟨w', rest, more, isWord'', stop⟩ := isWord'.exists_word _
  refine ⟨r, rfl, Option.isSome_iff_exists.2 ⟨(v, w'), twoWords?_eq_some_iff.2
    ⟨skipped, gap, rest, ?_, blank, isWord, List.length_pos_iff.1 some, blank', isWord'', stop⟩⟩⟩
  rw [← more, ← split₃, ← split'', ← split']
  exact split

/-- Where a command is found, there is its sign. -/
lemma command_found (h : (commandExpr.find? s).isSome) : ∃ r, s = '>' :: r := by
  obtain ⟨first, within, b, way⟩ := (Expr.find?_isSome_iff _ s).1 h
  obtain ⟨r, rfl, -⟩ := matches_behind within way
  exact ⟨r, rfl⟩

/-- The end of a text is where nothing is left. -/
lemma holds_stop_iff {pos} :
    Look.stop.holds (Pattern.charBefore? s.toArray pos) s.toArray[pos]? = true ↔ s.drop pos = [] := by
  rw [List.getElem?_toArray, ← List.head?_drop, Look.holds, Option.isNone_iff_eq_none,
    List.head?_eq_none_iff]

/-- A name and a value that are found are those of the definition. -/
lemma define_found {groups} (h : defineExpr.find? s = some groups) :
    ∃ r whole name value, s = 'D' :: r ∧ definition? r = some (name, value) ∧
      groups = [whole, name, value] := by
  obtain ⟨first, within, b, way, rfl⟩ := Expr.find?_some h
  obtain ⟨r, rfl, _, skip, _, nameWay, _, skip', _, quote, _, valueWay, _, quote', _, skip'', _,
    ⟨atEnd, rfl⟩, rfl⟩ := matches_behind within way
  obtain ⟨skipped, blank, split, rfl⟩ := matches_skip_iff.1 skip
  obtain ⟨name, isName, atName, rfl⟩ := matches_name_iff.1 nameWay
  obtain ⟨gap, blank', atGap, rfl⟩ := matches_skip_iff.1 skip'
  obtain ⟨atQuote, rfl⟩ := Expr.matches_char_iff_drop.1 quote
  obtain ⟨value, oneLine, atValue, rfl⟩ := matches_line_iff.1 valueWay
  obtain ⟨atQuote', rfl⟩ := Expr.matches_char_iff_drop.1 quote'
  obtain ⟨after, blank'', atAfter, rfl⟩ := matches_skip_iff.1 skip''
  have nothing := holds_stop_iff.1 atEnd
  -- from the end on, each part stands in front of those behind it
  simp only [Spot.forward] at split atName atGap atQuote atValue atQuote' atAfter nothing
  rw [nothing, List.append_nil] at atAfter
  rw [atAfter] at atQuote'
  rw [atQuote'] at atValue
  rw [atValue] at atQuote
  rw [atQuote] at atGap
  rw [atGap] at atName
  rw [atName] at split
  have isDefinition : definition? r = some (name, value) :=
    definition?_eq_some_iff.2 ⟨skipped, gap, after, split, blank, isName, blank', oneLine, blank''⟩
  exact ⟨r, _, name, value, rfl, isDefinition,
    congrArg₂ (fun g g' => [_, g, g']) (groupText_eq rfl rfl atName) (groupText_eq rfl rfl atValue)⟩

/-- A definition behind its letter is found. -/
lemma define_isSome {name value} (h : definition? r = some (name, value)) :
    (defineExpr.find? ('D' :: r)).isSome := by
  obtain ⟨skipped, gap, after, rfl, blank, isName, blank', oneLine, blank''⟩ :=
    definition?_eq_some_iff.1 h
  generalize text : 'D' :: (skipped ++ (name ++ (gap ++ '"' :: (value ++ '"' :: after)))) = s
  have first : s.toArray[0]? = some 'D' := by rw [← text]; rfl
  have behind : s.drop 1 = skipped ++ (name ++ (gap ++ '"' :: (value ++ '"' :: after))) := by
    rw [← text]; rfl
  have atName := drop_run behind
  have atGap := drop_run atName
  have atQuote := drop_run atGap
  have atValue := drop_cons atQuote
  have atQuote' := drop_run atValue
  have atAfter := drop_cons atQuote'
  have ending : s.drop _ = after ++ [] := atAfter.trans (List.append_nil after).symm
  have atEnd := drop_run ending
  refine (Expr.find?_isSome_iff _ s).2 ⟨0, Nat.zero_le _, _, _, ⟨holds_start s, rfl⟩, _, ⟨first, rfl⟩, _,
    matches_skip_iff.2 ⟨skipped, blank, behind.trans (congrArg _ atName.symm), rfl⟩, _,
    matches_name_iff.2 ⟨name, isName, atName.trans (congrArg _ atGap.symm), rfl⟩, _,
    matches_skip_iff.2 ⟨gap, blank', atGap.trans (congrArg _ atQuote.symm), rfl⟩, _,
    Expr.matches_char_iff_drop.2 ⟨atQuote.trans (congrArg _ atValue.symm), rfl⟩, _,
    matches_line_iff.2 ⟨value, oneLine, atValue.trans (congrArg _ atQuote'.symm), rfl⟩, _,
    Expr.matches_char_iff_drop.2 ⟨atQuote'.trans (congrArg _ atAfter.symm), rfl⟩, _,
    matches_skip_iff.2 ⟨after, blank'', ?_, rfl⟩, _, ⟨holds_stop_iff.2 atEnd, rfl⟩, rfl⟩
  exact atAfter.trans ((List.append_nil after).symm.trans (congrArg _ atEnd.symm))

/-- The pattern of comments finds comments. -/
lemma comment_isSome_iff : (commentExpr.find? s).isSome ↔ isComment s = true := by
  rw [Expr.find?_isSome_iff, isComment, beq_iff_eq]
  constructor
  · rintro ⟨first, within, b, _, ⟨here, rfl⟩, _, skip, _, sign, rfl⟩
    obtain rfl : first = 0 := (Pattern.holds_start_iff within).1 here
    obtain ⟨skipped, blank, split, rfl⟩ := matches_skip_iff.1 skip
    obtain ⟨atSign, rfl⟩ := Expr.matches_char_iff_drop.1 sign
    rw [atSign] at split
    have split : s = skipped ++ '#' :: _ := split
    rw [split, trimStart_run blank (by rintro c ⟨⟩; rfl)]
    rfl
  · intro head
    obtain ⟨r, start⟩ := List.head?_eq_some_iff.1 head
    obtain ⟨split, blank, -⟩ := exists_takeWhile isBlank s
    generalize s.takeWhile isBlank = skipped at split blank
    rw [trimStart] at start
    rw [start] at split
    have atSign : s.drop (0 + skipped.length) = '#' :: r := drop_run split
    have behind := drop_cons atSign
    exact ⟨0, Nat.zero_le _, _, _, ⟨holds_start s, rfl⟩, _,
      matches_skip_iff.2 ⟨skipped, blank, split.trans (congrArg _ atSign.symm), rfl⟩, _,
      Expr.matches_char_iff_drop.2 ⟨atSign.trans (congrArg _ behind.symm), rfl⟩, rfl⟩

/-- The pattern of blank lines finds blank lines. -/
lemma blank_isSome_iff : (blankExpr.find? s).isSome ↔ isAllBlank s = true := by
  rw [Expr.find?_isSome_iff, isAllBlank, List.all_eq_true]
  constructor
  · rintro ⟨first, within, b, _, ⟨here, rfl⟩, _, skip, _, ⟨atEnd, rfl⟩, rfl⟩
    obtain rfl : first = 0 := (Pattern.holds_start_iff within).1 here
    obtain ⟨skipped, blank, split, rfl⟩ := matches_skip_iff.1 skip
    rw [holds_stop_iff.1 atEnd, List.append_nil] at split
    have split : s = skipped := split
    rwa [split]
  · intro blank
    have nothing : s.drop (0 + s.length) = [] := drop_run (List.append_nil s).symm
    exact ⟨0, Nat.zero_le _, _, _, ⟨holds_start s, rfl⟩, _,
      matches_skip_iff.2 ⟨s, blank, (List.append_nil s).symm.trans (congrArg _ nothing.symm), rfl⟩, _,
      ⟨holds_stop_iff.2 nothing, rfl⟩, rfl⟩

end Finding

section Kinds

variable {s r : List Char} {k k' : Kind} {line : Nat} {groups fields : List (List Char)}

/-- The fields behind a letter are the groups that its pattern finds. -/
lemma Kind.find?_eq (h : k.fields? r = some fields) :
    ∃ whole, k.expr.find? (k.letter :: r) = some (whole :: fields) := by
  cases k with
  | setTimeout | deleteFile | checkAbsent | checkExists =>
    obtain ⟨w, word, rfl⟩ := Option.map_eq_some_iff.1 h
    exact oneWord_find word
  | copyFile | checkContent =>
    obtain ⟨w, words, rfl⟩ := Option.map_eq_some_iff.1 h
    exact twoWords_find words
  | command =>
    cases h
    exact command_find r
  | define =>
    obtain ⟨d, definition, rfl⟩ := Option.map_eq_some_iff.1 h
    -- some way is found, and every way has the same name and value
    obtain ⟨groups, found⟩ := Option.isSome_iff_exists.1 (define_isSome definition)
    obtain ⟨r', whole, name, value, e, definition', rfl⟩ := define_found found
    cases e
    cases definition.symm.trans definition'
    exact ⟨whole, found⟩

/-- Where a pattern finds something, its letter stands in front of fields. -/
lemma Kind.of_find? (h : (k.expr.find? s).isSome) :
    ∃ r, s = k.letter :: r ∧ (k.fields? r).isSome := by
  cases k with
  | setTimeout | deleteFile | checkAbsent | checkExists =>
    obtain ⟨r, rfl, word⟩ := oneWord_found h
    exact ⟨r, rfl, by rwa [Kind.fields?, Option.isSome_map]⟩
  | copyFile | checkContent =>
    obtain ⟨r, rfl, words⟩ := twoWords_found h
    exact ⟨r, rfl, by rwa [Kind.fields?, Option.isSome_map]⟩
  | command =>
    obtain ⟨r, rfl⟩ := command_found h
    exact ⟨r, rfl, rfl⟩
  | define =>
    obtain ⟨groups, found⟩ := Option.isSome_iff_exists.1 h
    obtain ⟨r, whole, name, value, rfl, definition, -⟩ := define_found found
    exact ⟨r, rfl, by rw [Kind.fields?, definition]; rfl⟩

/-- The fields of a kind are read where they stand. -/
lemma Kind.fields?_eq_some_iff : k.fields? r = some fields ↔ k.HasFields r fields := by
  cases k with
  | setTimeout | deleteFile | checkAbsent | checkExists =>
    simp only [Kind.fields?, Kind.HasFields, Option.map_eq_some_iff, word?_eq_some_iff]
  | copyFile | checkContent =>
    simp only [Kind.fields?, Kind.HasFields, Option.map_eq_some_iff, Prod.exists, twoWords?_eq_some_iff]
  | command => simp only [Kind.fields?, Kind.HasFields, Option.some.injEq]
  | define =>
    simp only [Kind.fields?, Kind.HasFields, Option.map_eq_some_iff, Prod.exists, definition?_eq_some_iff]

/-- No two kinds have one letter. -/
lemma Kind.eq_of_letter (same : k.letter = k'.letter) : k = k' := by
  cases k <;> cases k' <;> first | rfl | exact absurd same (by decide)

/-- A line is matched by the pattern of one kind at most. -/
lemma Kind.eq_of_find? (h : (k.expr.find? s).isSome) (h' : (k'.expr.find? s).isSome) : k = k' := by
  obtain ⟨r, rfl, -⟩ := Kind.of_find? h
  obtain ⟨r', same, -⟩ := Kind.of_find? h'
  exact Kind.eq_of_letter (List.cons.inj same).1

/-- A letter is not blank. -/
lemma Kind.letter_visible (k : Kind) : isBlank k.letter = false := by
  cases k <;> rfl

/-- What is read behind a letter are the fields of its kind. -/
lemma readForm_letter (k : Kind) (line r) :
    readForm line (k.letter :: r) =
      match k.fields? r with
      | some fields => k.form fields
      | none => .error (.malformed line) := by
  have visible : isAllBlank (k.letter :: r) = false := by
    rw [isAllBlank, List.all_cons, k.letter_visible]
    rfl
  unfold readForm
  rw [if_neg (by simp [visible])]
  cases k with
  | setTimeout | deleteFile | checkAbsent | checkExists =>
    simp only [Kind.letter, Kind.fields?]
    cases word? r <;> rfl
  | copyFile | checkContent =>
    simp only [Kind.letter, Kind.fields?]
    cases twoWords? r <;> rfl
  | command => rfl
  | define =>
    simp only [Kind.letter, Kind.fields?]
    cases definition? r <;> rfl

/-- Without a letter nothing is read. -/
lemma readForm_other (visible : isAllBlank s = false) (none : ∀ k : Kind, s.head? ≠ some k.letter) :
    readForm line s = .error (.malformed line) := by
  unfold readForm
  rw [if_neg (by simp [visible])]
  split
  · exact absurd rfl (none .setTimeout)
  · exact absurd rfl (none .copyFile)
  · exact absurd rfl (none .deleteFile)
  · exact absurd rfl (none .command)
  · exact absurd rfl (none .checkContent)
  · exact absurd rfl (none .checkAbsent)
  · exact absurd rfl (none .checkExists)
  · exact absurd rfl (none .define)
  · rfl

/-- The kind whose pattern matches decides the form, wherever it stands in the order. -/
lemma firstForm_eq {order} (member : k ∈ order) (found : k.expr.find? s = some groups) :
    firstForm line s order = k.form groups.tail := by
  induction order with
  | nil => cases member
  | cons k' order ih =>
    rw [firstForm, Kind.groupsOf?_pattern]
    cases other : k'.expr.find? s with
    | some groups' =>
      obtain rfl := Kind.eq_of_find? (k := k) (by rw [found]; rfl) (by rw [other]; rfl)
      rw [found] at other
      cases other
      rfl
    | none =>
      rcases List.mem_cons.1 member with rfl | later
      · rw [found] at other
        cases other
      · exact ih later

/-- Where no pattern matches, a line is malformed. -/
lemma firstForm_none (none : ∀ k : Kind, k.expr.find? s = none) (order) :
    firstForm line s order = .error (.malformed line) := by
  induction order with
  | nil => rfl
  | cons k order ih =>
    rw [firstForm, Kind.groupsOf?_pattern, none k]
    exact ih

/-- What the patterns say in any order is what the first letter says. -/
theorem formBy_eq {order : List Kind} (all : ∀ k, k ∈ order) (line s) :
    formBy order line s = readForm line s := by
  rw [formBy, groupsOf?_blank]
  by_cases blank : isAllBlank s = true
  · unfold readForm
    rw [if_pos (blank_isSome_iff.2 blank), if_pos blank]
  · rw [if_neg (mt blank_isSome_iff.1 blank)]
    rw [Bool.not_eq_true] at blank
    by_cases found : ∃ k : Kind, (k.expr.find? s).isSome
    · obtain ⟨k, found⟩ := found
      obtain ⟨r, rfl, some⟩ := Kind.of_find? found
      obtain ⟨fields, some⟩ := Option.isSome_iff_exists.1 some
      obtain ⟨whole, found⟩ := Kind.find?_eq some
      rw [firstForm_eq (all k) found, readForm_letter, some]
      rfl
    · have none : ∀ k : Kind, k.expr.find? s = none := fun k => by
        by_contra some
        exact found ⟨k, Option.isSome_iff_ne_none.2 some⟩
      rw [firstForm_none none]
      by_cases letter : ∃ k : Kind, s.head? = some k.letter
      · obtain ⟨k, letter⟩ := letter
        obtain ⟨r, rfl⟩ := List.head?_eq_some_iff.1 letter
        rw [readForm_letter]
        cases fields : k.fields? r with
        | none => rfl
        | some fields =>
          obtain ⟨whole, found⟩ := Kind.find?_eq fields
          rw [none k] at found
          cases found
      · exact (readForm_other blank fun k same => letter ⟨k, same⟩).symm

end Kinds

/-- A line that is not blank has the fields of the kind of its first letter, or it is malformed. -/
lemma readForm_cases {s : List Char} (visible : isAllBlank s = false) (line) :
    (∃ (k : Kind) (r : _) (fields : _),
      s = k.letter :: r ∧ k.HasFields r fields ∧ readForm line s = k.form fields) ∨
    (∀ (k : Kind) r fields, s = k.letter :: r → ¬ k.HasFields r fields) ∧
      readForm line s = .error (.malformed line) := by
  by_cases letter : ∃ k : Kind, s.head? = some k.letter
  · obtain ⟨k, letter⟩ := letter
    obtain ⟨r, rfl⟩ := List.head?_eq_some_iff.1 letter
    rw [readForm_letter]
    cases read : k.fields? r with
    | some fields => exact .inl ⟨k, r, fields, rfl, Kind.fields?_eq_some_iff.1 read, rfl⟩
    | none =>
      refine .inr ⟨fun k' r' fields same has => ?_, rfl⟩
      obtain ⟨letters, rfl⟩ := List.cons.inj same
      obtain rfl := Kind.eq_of_letter letters
      rw [Kind.fields?_eq_some_iff.2 has] at read
      cases read
  · refine .inr ⟨fun k r fields same => ?_, readForm_other visible fun k same => letter ⟨k, same⟩⟩
    exact absurd ⟨k, by rw [same]; rfl⟩ letter

/-- The first word of a line for a time limit is the limit if it is a number that is a time, and the fault
of the line otherwise. -/
lemma readForm_setTimeout {r w : List Char} (word : FirstWord r w) (line) :
    (∀ secs, Number.readNumber? w = some secs → secs.isTime = true →
      readForm line ('T' :: r) = .ok (.whole (.setTimeout secs))) ∧
    ((∀ secs, Number.readNumber? w = some secs → secs.isTime = false) →
      readForm line ('T' :: r) = .error (.badTimeout w)) := by
  have read : readForm line ('T' :: r) = timeLimit w := by
    have fields : Kind.setTimeout.fields? r = some [w] := Kind.fields?_eq_some_iff.2 ⟨w, word, rfl⟩
    rw [show 'T' = Kind.setTimeout.letter from rfl, readForm_letter, fields]
    rfl
  rw [read, timeLimit]
  constructor
  · intro secs number time
    rw [number]
    exact if_pos time
  · intro none
    cases number : Number.readNumber? w with
    | none => rfl
    | some secs => exact if_neg (by rw [none secs number]; exact Bool.false_ne_true)

/-- A line is matched by the pattern of one kind at most, so the order in which the patterns are tried does
not matter: what is read by them is what is read by the first letter. This makes the form of a line from
the fields that stand behind the letter, and a line without them is malformed. A time limit has to be a
number that is finite and not negative. -/
theorem Reader.nextBy_eq {σ : Type} (r : Reader) (expand : Expander σ) (state : σ) :
    (∀ s (k k' : Kind), (groupsOf? k.pattern s).isSome → (groupsOf? k'.pattern s).isSome → k = k') ∧
    (∀ order : List Kind, (∀ k, k ∈ order) →
      (∀ line s, formBy order line s = readForm line s) ∧
        r.nextBy order expand state = r.next expand state) ∧
    (∀ line s, isAllBlank s = false →
      (∃ (k : Kind) (r : _) (fields : _),
        s = k.letter :: r ∧ k.HasFields r fields ∧ readForm line s = k.form fields) ∨
      (∀ (k : Kind) r fields, s = k.letter :: r → ¬ k.HasFields r fields) ∧
        readForm line s = .error (.malformed line)) ∧
    (∀ line r w, FirstWord r w →
      (∀ secs, Number.readNumber? w = some secs → secs.isTime = true →
        readForm line ('T' :: r) = .ok (.whole (.setTimeout secs))) ∧
      ((∀ secs, Number.readNumber? w = some secs → secs.isTime = false) →
        readForm line ('T' :: r) = .error (.badTimeout w))) ∧
    ∀ line text, '\n' ∉ text → readForm line ('>' :: text) = .ok (.command (trim text)) := by
  refine ⟨fun s k k' h h' => ?_, fun order all => ⟨formBy_eq all, ?_⟩,
    fun line s visible => readForm_cases visible line, fun line r w word => readForm_setTimeout word line,
    fun line text oneLine => ?_⟩
  · rw [Kind.groupsOf?_pattern] at h h'
    exact Kind.eq_of_find? h h'
  · have comment (raw) : (groupsOf? commentPattern raw).isSome = isComment raw := by
      rw [groupsOf?_comment, Bool.eq_iff_iff, comment_isSome_iff]
    unfold Reader.nextBy
    simp only [comment, formBy_eq all]
    rfl
  · rw [← commandText_eq_trim oneLine]
    rfl

end Transcript.Script
