import Mathlib.Tactic.Common
import Transcript.Proofs.Script.Reading

/-!
# Lines and what is asked of them

Which lines a call of the reader takes, and which texts it has expanded. A call takes one line, or a
command with the lines up to the end of its block (`Accounts`). It does so at any point that a number of
calls may lead to, whatever came of them (`Reader.next_accounts`): lines are taken in their order, none
is left out and none is taken twice.
-/

namespace Transcript.Script

open Text (trimEnd)

variable {σ : Type}

/-- An expansion that keeps the texts it is asked to expand, in order. -/
def Expander.logged (expand : Expander σ) : Expander (σ × List (List Char)) :=
  fun text state =>
    let (result, next) := expand text state.1
    (result, next, state.2 ++ [text])

/-- Texts that are expanded one after the other, up to the first that cannot be. -/
def Expander.each (expand : Expander σ) :
    List (List Char) → σ → Except Fault (List (List Char)) × σ
  | [], state => (.ok [], state)
  | text :: texts, state =>
    match expand text state with
    | (.error f, next) => (.error f, next)
    | (.ok s, next) =>
      let (result, last) := expand.each texts next
      (result.map (s :: ·), last)

/-- What comes of the lines behind a command: those that are `taken`, the texts that are `asked` for,
and the lines of the `rest`. -/
inductive AccountsBlock (expand : Expander σ) (command : List Char) (state : σ) :
    (taken asked rest : List (List Char)) → Except Fault Instruction → σ → Prop where
  | closed {block expected last mode next} (rest) :
    (∀ raw ∈ block, terminator? (trimEnd raw) = none) →
    expand.each (block.map trimEnd) state = (.ok expected, next) →
    terminator? (trimEnd last) = some mode →
    AccountsBlock expand command state (block ++ [last]) (block.map trimEnd) rest
      (.ok (.runAndCheck command expected mode)) next
  | fault {block expected between last f next} (rest) :
    (∀ raw ∈ block, terminator? (trimEnd raw) = none) →
    expand.each (block.map trimEnd) state = (.ok expected, between) →
    terminator? (trimEnd last) = none →
    expand (trimEnd last) between = (.error f, next) →
    AccountsBlock expand command state (block ++ [last]) (block.map trimEnd ++ [trimEnd last]) rest
      (.error f) next
  | unended {block expected next} :
    (∀ raw ∈ block, terminator? (trimEnd raw) = none) →
    expand.each (block.map trimEnd) state = (.ok expected, next) →
    AccountsBlock expand command state block (block.map trimEnd) [] (.error (.unterminated command)) next

/-- What comes of a call behind `line` lines: the lines that are `taken`, the texts that are `asked` for,
and the lines of the `rest`. -/
inductive Accounts (expand : Expander σ) (state : σ) (line : Nat) :
    (taken asked rest : List (List Char)) → Except Fault (Option Instruction) → σ → Prop where
  | ended :
    Accounts expand state line [] [] [] (.ok none) state
  | comment {raw} (rest) :
    isComment raw = true →
    Accounts expand state line [raw] [] rest (.ok (some .comment)) state
  | fault {raw f next} (rest) :
    isComment raw = false → expand raw state = (.error f, next) →
    Accounts expand state line [raw] [raw] rest (.error f) next
  | noForm {raw s f next} (rest) :
    isComment raw = false → expand raw state = (.ok s, next) → s.head? ≠ some '>' →
    readForm (line + 1) s = .error f →
    Accounts expand state line [raw] [raw] rest (.error f) next
  | whole {raw s i next} (rest) :
    isComment raw = false → expand raw state = (.ok s, next) → s.head? ≠ some '>' →
    readForm (line + 1) s = .ok (.whole i) →
    Accounts expand state line [raw] [raw] rest (.ok (some i)) next
  | command {raw s between taken asked rest result next} :
    isComment raw = false → expand raw state = (.ok ('>' :: s), between) →
    AccountsBlock expand (commandText s) between taken asked rest result next →
    Accounts expand state line (raw :: taken) (raw :: asked) rest (result.map some) next

section Each

variable {expand : Expander σ} {texts expected : List (List Char)} {state next : σ}

/-- One text more is expanded in front of the others. -/
lemma Expander.each_cons {text s between} (first : expand text state = (.ok s, between))
    (others : expand.each texts between = (.ok expected, next)) :
    expand.each (text :: texts) state = (.ok (s :: expected), next) := by
  rw [Expander.each, first]
  simp only [others, Except.map]

/-- Texts that are all expanded are expanded one by one. -/
lemma Expander.each_cons_ok {text} (e : expand.each (text :: texts) state = (.ok expected, next)) :
    ∃ s between more, expand text state = (.ok s, between) ∧
      expand.each texts between = (.ok more, next) ∧ expected = s :: more := by
  rw [Expander.each] at e
  rcases first : expand text state with ⟨f | s, between⟩
  · rw [first] at e
    cases e
  · simp only [first] at e
    rcases others : expand.each texts between with ⟨f | more, last⟩ <;> rw [others] at e <;> cases e
    exact ⟨s, between, more, rfl, others, rfl⟩

/-- Texts that are all expanded are as many as what they are expanded to. -/
lemma Expander.each_length (e : expand.each texts state = (.ok expected, next)) :
    expected.length = texts.length := by
  induction texts generalizing expected state with
  | nil =>
    cases e
    rfl
  | cons text texts ih =>
    obtain ⟨s, between, more, -, others, rfl⟩ := Expander.each_cons_ok e
    rw [List.length_cons, ih others, List.length_cons]

/-- Texts that are all expanded are the texts that are asked for. -/
lemma Expander.each_logged (e : expand.each texts state = (.ok expected, next)) (log) :
    expand.logged.each texts (state, log) = (.ok expected, next, log ++ texts) := by
  induction texts generalizing expected state log with
  | nil =>
    cases e
    rw [List.append_nil]
    rfl
  | cons text texts ih =>
    obtain ⟨s, between, more, first, others, rfl⟩ := Expander.each_cons_ok e
    have logged : expand.logged text (state, log) = (.ok s, between, log ++ [text]) := by
      rw [Expander.logged, first]
    rw [Expander.each_cons logged (ih others _), List.append_assoc, List.singleton_append]

/-- What is asked for does not change what a text is expanded to. -/
lemma Expander.logged_eq {text result} (e : expand text state = (result, next)) (log) :
    expand.logged text (state, log) = (result, next, log ++ [text]) := by
  rw [Expander.logged, e]

end Each

section Blocks

variable {expand : Expander σ} {command : List Char} {taken asked rest block : List (List Char)}
variable {result : Except Fault Instruction} {state next : σ}

/-- The lines of a block are passed over when they are expanded. -/
lemma readBlock_each {more} (outside : ∀ raw ∈ block, terminator? (trimEnd raw) = none)
    (e : expand.each (block.map trimEnd) state = (.ok more, next)) (expected line ls) :
    readBlock expand command expected state line (block ++ ls) =
      readBlock expand command (more.reverse ++ expected) next (line + block.length) ls := by
  induction block generalizing more expected state line with
  | nil =>
    cases e
    rfl
  | cons raw block ih =>
    obtain ⟨m, outside⟩ := List.forall_mem_cons.1 outside
    obtain ⟨s, between, more, first, others, rfl⟩ := Expander.each_cons_ok e
    have count : line + 1 + block.length = line + (block.length + 1) := by omega
    rw [List.cons_append, readBlock_line m first, ih outside others, List.length_cons, count,
      List.reverse_cons, List.append_assoc, List.singleton_append]

/-- Lines that are all expanded go on to the end, to a terminator or to a line that cannot be
expanded. -/
lemma exists_accountsBlock (expand : Expander σ) (command state ls) :
    ∃ taken asked rest result next,
      ls = taken ++ rest ∧ AccountsBlock expand command state taken asked rest result next := by
  induction ls generalizing state with
  | nil => exact ⟨[], [], [], _, state, rfl, .unended nofun rfl⟩
  | cons raw ls ih =>
    have outside : ∀ raw ∈ ([] : List (List Char)), terminator? (trimEnd raw) = none := nofun
    cases m : terminator? (trimEnd raw) with
    | some mode => exact ⟨[raw], [], ls, _, state, rfl, .closed ls outside rfl m⟩
    | none =>
      rcases e : expand (trimEnd raw) state with ⟨f | s, between⟩
      · exact ⟨[raw], [trimEnd raw], ls, _, between, rfl, .fault ls outside rfl m e⟩
      · obtain ⟨taken, asked, rest, result, next, split, accounts⟩ := ih between
        cases accounts with
        | closed rest outside each ended =>
          exact ⟨_, _, rest, _, next, congrArg (raw :: ·) split,
            .closed rest (List.forall_mem_cons.2 ⟨m, outside⟩) (Expander.each_cons e each) ended⟩
        | fault rest outside each last fault =>
          exact ⟨_, _, rest, _, next, congrArg (raw :: ·) split,
            .fault rest (List.forall_mem_cons.2 ⟨m, outside⟩) (Expander.each_cons e each) last fault⟩
        | unended outside each =>
          exact ⟨_, _, [], _, next, congrArg (raw :: ·) split,
            .unended (List.forall_mem_cons.2 ⟨m, outside⟩) (Expander.each_cons e each)⟩

/-- Such lines are read as they are accounted for. -/
lemma AccountsBlock.readBlock_eq
    (h : AccountsBlock expand command state taken asked rest result next) (line) :
    readBlock expand command [] state line (taken ++ rest) =
      ⟨result, ⟨rest, line + taken.length⟩, next⟩ := by
  cases h with
  | closed rest outside each ended =>
    rw [List.append_assoc, readBlock_each outside each, List.singleton_append,
      readBlock_terminator ended, List.append_nil, List.reverse_reverse, List.length_append,
      List.length_singleton, Nat.add_assoc]
  | fault rest outside each last fault =>
    rw [List.append_assoc, readBlock_each outside each, List.singleton_append,
      readBlock_fault last fault, List.length_append, List.length_singleton, Nat.add_assoc]
  | unended outside each =>
    rw [readBlock_each outside each]
    rfl

/-- The texts of a block that are asked for are those that are accounted for. -/
lemma AccountsBlock.logged (h : AccountsBlock expand command state taken asked rest result next)
    (log) :
    AccountsBlock expand.logged command (state, log) taken asked rest result (next, log ++ asked) := by
  cases h with
  | closed rest outside each ended =>
    exact .closed rest outside (Expander.each_logged each log) ended
  | @fault block expected between last f next rest outside each noEnd fault =>
    have logged := Expander.logged_eq fault (log ++ block.map trimEnd)
    rw [List.append_assoc] at logged
    exact .fault rest outside (Expander.each_logged each log) noEnd logged
  | unended outside each => exact .unended outside (Expander.each_logged each log)

/-- A block that is read to its end has one line more than it has expected lines. -/
lemma AccountsBlock.length_eq {i} (h : AccountsBlock expand command state taken asked rest (.ok i) next) :
    ∃ expected mode, i = .runAndCheck command expected mode ∧ expected.length + 1 = taken.length := by
  cases h with
  | closed rest outside each ended =>
    refine ⟨_, _, rfl, ?_⟩
    rw [Expander.each_length each, List.length_map, List.length_append, List.length_singleton]

end Blocks

section Calls

variable {expand : Expander σ} {taken asked rest : List (List Char)} {line : Nat}
variable {result : Except Fault (Option Instruction)} {state next : σ}

/-- A form that is not a command's belongs to a line that does not begin with its sign. -/
lemma head?_ne_of_readForm {s form} (o : readForm line s = form)
    (whole : ∀ text, form ≠ .ok (.command text)) : s.head? ≠ some '>' := by
  intro head
  obtain ⟨r, rfl⟩ := List.head?_eq_some_iff.1 head
  exact whole (commandText r) o.symm

/-- Every call can be accounted for. -/
lemma exists_accounts (expand : Expander σ) (state line ls) :
    ∃ taken asked rest result next,
      ls = taken ++ rest ∧ Accounts expand state line taken asked rest result next := by
  cases ls with
  | nil => exact ⟨[], [], [], _, state, rfl, .ended⟩
  | cons raw ls =>
    cases c : isComment raw with
    | true => exact ⟨[raw], [], ls, _, state, rfl, .comment ls c⟩
    | false =>
      rcases e : expand raw state with ⟨f | s, between⟩
      · exact ⟨[raw], [raw], ls, _, between, rfl, .fault ls c e⟩
      · rcases o : readForm (line + 1) s with f | i | text
        · exact ⟨[raw], [raw], ls, _, between, rfl,
            .noForm ls c e (head?_ne_of_readForm o nofun) o⟩
        · exact ⟨[raw], [raw], ls, _, between, rfl,
            .whole ls c e (head?_ne_of_readForm o nofun) o⟩
        · cases readForm_ok o with
          | command r =>
            obtain ⟨taken, asked, rest, result, next, split, accounts⟩ :=
              exists_accountsBlock expand (commandText r) between ls
            exact ⟨raw :: taken, raw :: asked, rest, _, next, congrArg (raw :: ·) split,
              .command c e accounts⟩

/-- What is read is what is accounted for. -/
lemma Accounts.next_eq (h : Accounts expand state line taken asked rest result next) :
    Reader.next ⟨taken ++ rest, line⟩ expand state = ⟨result, ⟨rest, line + taken.length⟩, next⟩ := by
  cases h with
  | ended => rfl
  | comment rest c => exact Reader.next_comment c
  | fault rest c e => exact Reader.next_fault c e
  | noForm rest c e _ o => exact Reader.next_noForm c e o
  | whole rest c e _ o => exact Reader.next_whole c e o
  | command c e block =>
    have count : ∀ n, line + 1 + n = line + (n + 1) := by omega
    rw [List.cons_append, Reader.next_command c e rfl, block.readBlock_eq, List.length_cons, count]

/-- The texts that are asked for are those that are accounted for. -/
lemma Accounts.logged (h : Accounts expand state line taken asked rest result next) (log) :
    Accounts expand.logged (state, log) line taken asked rest result (next, log ++ asked) := by
  cases h with
  | ended =>
    rw [List.append_nil]
    exact .ended
  | comment rest c =>
    rw [List.append_nil]
    exact .comment rest c
  | fault rest c e => exact .fault rest c (Expander.logged_eq e log)
  | noForm rest c e head o => exact .noForm rest c (Expander.logged_eq e log) head o
  | whole rest c e head o => exact .whole rest c (Expander.logged_eq e log) head o
  | @command raw s between taken asked rest result next c e block =>
    have logged := block.logged (log ++ [raw])
    rw [List.append_assoc, List.singleton_append] at logged
    exact .command c (Expander.logged_eq e log) logged

/-- A command with its block takes two lines more than it has expected lines. -/
lemma Accounts.length_eq {command expected mode}
    (h : Accounts expand state line taken asked rest (.ok (some (.runAndCheck command expected mode)))
      next) :
    expected.length + 2 = taken.length := by
  generalize r : Except.ok (some (Instruction.runAndCheck command expected mode)) = result at h
  cases h with
  | ended => cases r
  | comment => cases r
  | fault => cases r
  | noForm => cases r
  | whole rest c e head o =>
    cases r
    cases readForm_ok o
  | @command raw s between taken asked rest result next c e block =>
    cases result with
    | error f => cases r
    | ok i =>
      obtain ⟨expected, mode, rfl, length⟩ := block.length_eq
      cases r
      rw [List.length_cons, ← length]

/-- Nothing is read exactly where no line is left. -/
lemma Accounts.ended_iff (h : Accounts expand state line taken asked rest result next) :
    result = .ok none ↔ taken = [] := by
  cases h with
  | ended => exact ⟨fun _ => rfl, fun _ => rfl⟩
  | @command raw s between taken asked rest result next c e block =>
    refine ⟨fun isEnd => ?_, nofun⟩
    cases result <;> exact nomatch isEnd
  | _ => exact ⟨nofun, nofun⟩

/-- No line is taken exactly where none is left. -/
lemma Accounts.taken_eq_nil_iff (h : Accounts expand state line taken asked rest result next) :
    taken = [] ↔ taken ++ rest = [] := by
  cases h with
  | ended => exact ⟨fun _ => rfl, fun _ => rfl⟩
  | _ => exact ⟨nofun, nofun⟩

end Calls

/-- The reader and the state after a number of calls, each with an expansion of its own. -/
def Reader.calls (r : Reader) (state : σ) : List (Expander σ) → Reader × σ
  | [] => (r, state)
  | expand :: more =>
    let reading := r.next expand state
    reading.reader.calls reading.state more

section Runs

variable {r : Reader} {text : List Char} {expand : Expander σ} {state : σ}

/-- A reader of a text: as many lines are behind it as it counts, and the others are left. -/
def Reader.Within (r : Reader) (text : List Char) : Prop :=
  r.rest = (Text.lines text).drop r.line ∧ r.line ≤ (Text.lines text).length

/-- A call stays within the text. -/
lemma Reader.Within.next (h : r.Within text) (expand : Expander σ) (state) :
    (r.next expand state).reader.Within text := by
  obtain ⟨rest, line⟩ := r
  obtain ⟨left, bound⟩ : rest = (Text.lines text).drop line ∧ line ≤ (Text.lines text).length := h
  obtain ⟨taken, asked, rest, result, next, rfl, accounts⟩ := exists_accounts expand state line rest
  have length := congrArg List.length left
  rw [List.length_append, List.length_drop] at length
  have later : rest = (Text.lines text).drop (line + taken.length) := by
    rw [← List.drop_drop, ← left, List.drop_left]
  rw [accounts.next_eq]
  exact ⟨later, by simp only; omega⟩

/-- Any number of calls stays within the text. -/
lemma Reader.Within.calls (h : r.Within text) (state : σ) (before) :
    (r.calls state before).1.Within text := by
  induction before generalizing r state with
  | nil => exact h
  | cons expand before ih => exact ih (h.next expand state) _

/-- Every call takes a line, as long as there is one. -/
lemma Reader.length_calls_le (r : Reader) (state : σ) (before) :
    (r.calls state before).1.rest.length ≤ r.rest.length - before.length := by
  induction before generalizing r state with
  | nil => exact Nat.le_refl _
  | cons expand before ih =>
    have later := ih (r.next expand state).reader (r.next expand state).state
    have one : (r.next expand state).reader.rest.length ≤ r.rest.length - 1 := by
      obtain ⟨_ | ⟨raw, rest⟩, line⟩ := r
      · exact Nat.le_refl _
      · exact Nat.le_pred_of_lt (Reader.next_shorter raw rest line state)
    rw [List.length_cons, Reader.calls]
    omega

/-- After any calls, a reader has as many lines behind it as it counts. The next call takes lines from
the front of the others, at least one as long as there is one, and asks for the texts that are accounted
for. The end is reached after as many calls as there are lines, and nothing changes there. -/
theorem Reader.next_accounts (text) (before : List (Expander σ)) (state : σ) (expand : Expander σ) :
    let all := Text.lines text
    let (r, state) := (Reader.ofText text).calls state before
    let reading := r.next expand state
    ∃ taken asked,
      all = all.take r.line ++ taken ++ reading.reader.rest ∧
      r.line ≤ all.length ∧ reading.reader.line = r.line + taken.length ∧
      Accounts expand state r.line taken asked reading.reader.rest reading.result reading.state ∧
      (∀ log, r.next expand.logged (state, log) =
        ⟨reading.result, reading.reader, reading.state, log ++ asked⟩) ∧
      (∀ command expected mode, reading.result = .ok (some (.runAndCheck command expected mode)) →
        expected.length + 2 = taken.length) ∧
      (taken = [] ↔ r.line = all.length) ∧ (all.length ≤ before.length → taken = []) ∧
      (reading.result = .ok none ↔ taken = []) ∧ (taken = [] → reading = ⟨.ok none, r, state⟩) := by
  have start : (Reader.ofText text).Within text := ⟨rfl, Nat.zero_le _⟩
  have within := start.calls state before
  have shorter := Reader.length_calls_le (Reader.ofText text) state before
  generalize (Reader.ofText text).calls state before = reached at within shorter ⊢
  obtain ⟨⟨rest, line⟩, state⟩ := reached
  obtain ⟨left, bound⟩ : rest = (Text.lines text).drop line ∧ line ≤ (Text.lines text).length := within
  change rest.length ≤ (Text.lines text).length - before.length at shorter
  obtain ⟨taken, asked, rest, result, next, rfl, accounts⟩ := exists_accounts expand state line rest
  have isEnd := accounts.taken_eq_nil_iff
  simp only [accounts.next_eq]
  refine ⟨taken, asked, ?_, bound, rfl, accounts, ?_, ?_, ?_, ?_, accounts.ended_iff, ?_⟩
  · rw [List.append_assoc, left, List.take_append_drop]
  · intro log
    rw [(accounts.logged log).next_eq]
  · rintro command expected mode rfl
    exact accounts.length_eq
  · rw [isEnd, left, List.drop_eq_nil_iff]
    omega
  · intro enough
    rw [isEnd, ← List.length_eq_zero_iff]
    omega
  · intro none
    have nothing := isEnd.1 none
    cases accounts with
    | ended => rfl
    | _ => cases none

end Runs

end Transcript.Script
