import Mathlib.Data.List.TakeWhile
import SacmRuntime.Governance.Authentication
import SacmRuntime.Lib.Replacement
import SacmRuntime.Runtime.Redaction

namespace SacmRuntime
namespace Redaction

/-- What is documented of `\w` and `\s`: ASCII letters and digits are word
characters, and white space is what `str.isspace` holds of. -/
structure Rules.Documented (rules : Rules) : Prop where
  word : ∀ c, c.isAlphanum = true → rules.isWord c = true
  space : rules.isSpace = SacmRuntime.isSpace

/-- The text is written as the pattern, regardless of case. -/
abbrev Written (pattern text : List Char) :
    Prop := List.Forall₂ (fun letter c => matchesLetter letter c = true) pattern text

/-- White space, a comma or a semicolon: what ends the value of an assignment. -/
def isBreak (rules : Rules) (c : Char) : Bool := rules.isSpace c || c == ',' || c == ';'

/-- An assignment up to its value: a name, a sign, and white space around the sign. -/
structure Head (rules : Rules) (head : List Char) : Prop where
  parts : ∃ name ∈ assignedNames, ∃ written gap sign space, head = written ++ (gap ++ sign :: space) ∧
    Written name.toList written ∧ (∀ c ∈ gap, rules.isSpace c = true) ∧ (sign = ':' ∨ sign = '=') ∧
    ∀ c ∈ space, rules.isSpace c = true

structure Value (rules : Rules) (value : List Char) : Prop where
  filled : value ≠ []
  unbroken : ∀ c ∈ value, isBreak rules c = false

def Ends (rules : Rules) (rest : List Char) : Prop := ∀ c ∈ rest.head?, isBreak rules c = true

def Boundary (rules : Rules) (prev : Option Char) : Prop := prev.any rules.isWord = false

section Letters

def spaces : List Char :=
  [9, 10, 11, 12, 13, 28, 29, 30, 31, 32, 133, 160, 5760, 8192, 8193, 8194, 8195, 8196, 8197, 8198, 8199, 8200, 8201,
    8202, 8232, 8233, 8239, 8287, 12288].map Char.ofNat

variable {c letter : Char} {name other : String} {rest rest' text : List Char}

theorem mem_spaces (space : isSpace c = true) : c ∈ spaces := by
  have code : c.toNat ∈ [9, 10, 11, 12, 13, 28, 29, 30, 31, 32, 133, 160, 5760, 8192, 8193, 8194, 8195, 8196, 8197,
      8198, 8199, 8200, 8201, 8202, 8232, 8233, 8239, 8287, 12288] := by
    unfold isSpace at space
    simp only [Bool.or_eq_true, Bool.and_eq_true, decide_eq_true_eq, List.mem_cons, List.not_mem_nil,
      or_false] at space ⊢
    omega
  rw [← Char.ofNat_toNat c]
  exact List.mem_map_of_mem code

def letters : List Char := assignedNames.flatMap String.toList

theorem mem_letters (known : name ∈ assignedNames) (member : letter ∈ name.toList) :
    letter ∈ letters := List.mem_flatMap.mpr ⟨name, known, member⟩

theorem matchesLetter_eq_false (member : letter ∈ letters) (foreign : c ∈ spaces ∨ c ∈ [':', '=', ',', ';', '[', ']']) :
    matchesLetter letter c = false := by
  have none : ∀ letter ∈ letters, ∀ c ∈ spaces ++ [':', '=', ',', ';', '[', ']'], matchesLetter letter c = false := by
    decide +kernel
  exact none letter member c (by simpa using foreign)

theorem matchesLetter_unique {other : Char} (ascii : letter.toNat < 128) (otherAscii : other.toNat < 128)
    (first : matchesLetter letter c = true) (second : matchesLetter other c = true) : letter = other := by
  by_cases special : c ∈ ['ı', 'İ', 'ſ', '\u212a']
  · have folds (l : Char) (small : l.toNat < 128) (matched : matchesLetter l c = true) :
        l = if c = 'ſ' then 's' else if c = '\u212a' then 'k' else 'i' := by
      simp only [List.mem_cons, List.not_mem_nil, or_false] at special
      rcases special with rfl | rfl | rfl | rfl <;>
        simp only [matchesLetter, Bool.or_eq_true, beq_iff_eq, Bool.and_eq_true] at matched <;>
        rcases matched with ((rfl | ⟨rfl, same⟩) | ⟨rfl, same⟩) | ⟨rfl, same⟩ <;>
        first
          | exact absurd small (by decide)
          | exact absurd same (by decide)
          | decide
    rw [folds letter ascii first, folds other otherAscii second]
  · have folds (l : Char) (matched : matchesLetter l c = true) : c.toLower = l := by
      simp only [List.mem_cons, List.not_mem_nil, or_false, not_or] at special
      simpa [matchesLetter, special] using matched
    rw [← folds letter first, ← folds other second]

theorem letters_ascii : ∀ letter ∈ letters, letter.toNat < 128 := by decide +kernel

/-- The pattern matches what is written as it, and leaves what comes after. -/
theorem afterPattern_eq_some {pattern : List Char} :
    afterPattern pattern text = some rest ↔ ∃ written, text = written ++ rest ∧ Written pattern written := by
  induction pattern generalizing text with
  | nil => simp [afterPattern]
  | cons letter pattern ih =>
    cases text with
    | nil => simp [afterPattern]
    | cons c text =>
      rw [afterPattern]
      split
      · rename_i matched
        rw [ih]
        constructor
        · rintro ⟨written, rfl, same⟩
          exact ⟨c :: written, rfl, .cons matched same⟩
        · rintro ⟨written, split, same⟩
          cases same with
          | @cons _ d _ written _ same =>
            obtain ⟨rfl, rfl⟩ := List.cons_eq_cons.mp split
            exact ⟨written, rfl, same⟩
      · rename_i unmatched
        refine iff_of_false nofun ?_
        rintro ⟨written, split, same⟩
        cases same with
        | @cons _ d _ written matched _ =>
          obtain ⟨rfl, rfl⟩ := List.cons_eq_cons.mp split
          exact unmatched matched

theorem written_comparable {first second other : List Char} (written : Written first text)
    (writtenToo : Written second other) (firstLetters : ∀ letter ∈ first, letter ∈ letters)
    (secondLetters : ∀ letter ∈ second, letter ∈ letters) (same : text ++ rest = other ++ rest') :
    first <+: second ∨ second <+: first := by
  induction written generalizing second other with
  | nil => exact .inl List.nil_prefix
  | @cons letter c first text matched written ih =>
    cases writtenToo with
    | nil => exact .inr List.nil_prefix
    | @cons letter' c' second other matched' writtenToo =>
      obtain ⟨rfl, onward⟩ := List.cons_eq_cons.mp same
      have equal : letter = letter' := matchesLetter_unique (letters_ascii _ (firstLetters letter (by simp)))
        (letters_ascii _ (secondLetters letter' (by simp))) matched matched'
      subst equal
      rw [List.cons_prefix_cons, List.cons_prefix_cons]
      refine Or.imp (⟨rfl, ·⟩) (⟨rfl, ·⟩) (ih writtenToo ?_ ?_ onward)
      · exact fun other member => firstLetters other (by simp [member])
      · exact fun other member => secondLetters other (by simp [member])

theorem names_apart : ∀ name ∈ assignedNames, ∀ other ∈ assignedNames,
    name.toList <+: other.toList ∨ name.toList <:+ other.toList → name = other := by decide +kernel

/-- Two of the names that are written at one place are one name. -/
theorem written_unique {text' : List Char} (known : name ∈ assignedNames) (otherKnown : other ∈ assignedNames)
    (written : Written name.toList text) (writtenToo : Written other.toList text')
    (same : text ++ rest = text' ++ rest') : text = text' ∧ rest = rest' := by
  have equal : name = other := by
    rcases written_comparable written writtenToo (fun _ => mem_letters known) (fun _ => mem_letters otherKnown) same
      with begins | begins
    · exact names_apart name known other otherKnown (.inl begins)
    · exact (names_apart other otherKnown name known (.inl begins)).symm
  subst equal
  exact List.append_inj same (written.length_eq.symm.trans writtenToo.length_eq)

/-- No name ends with another one. -/
theorem written_end {before : List Char} (known : name ∈ assignedNames) (otherKnown : other ∈ assignedNames)
    (written : Written name.toList (before ++ text)) (writtenToo : Written other.toList text) : before = [] := by
  have tail : name.toList.drop before.length <:+ name.toList := List.drop_suffix _ _
  have writtenTail : Written (name.toList.drop before.length) text := List.forall₂_drop_append _ _ _ written
  have sameLength := writtenTail.length_eq.trans writtenToo.length_eq.symm
  have equal : name.toList.drop before.length = other.toList := by
    rcases written_comparable writtenTail writtenToo (fun _ member => mem_letters known (tail.subset member))
      (fun _ => mem_letters otherKnown) (rfl : text ++ [] = text ++ []) with begins | begins
    · exact begins.eq_of_length sameLength
    · exact (begins.eq_of_length sameLength.symm).symm
  cases names_apart other otherKnown name known (.inr (equal ▸ tail))
  have count := written.length_eq
  rw [writtenToo.length_eq, List.length_append] at count
  exact List.length_eq_zero_iff.mp (by omega)

theorem written_foreign (known : name ∈ assignedNames) (written : Written name.toList text) (member : c ∈ text) :
    c ∉ spaces ∧ c ∉ [':', '=', ',', ';', '[', ']'] := by
  obtain ⟨letter, inName, matched⟩ : ∃ letter ∈ name.toList, matchesLetter letter c = true := by
    obtain ⟨i, inside, rfl⟩ := List.getElem_of_mem member
    have inPattern : i < name.toList.length := by rw [written.length_eq]; exact inside
    exact ⟨_, List.getElem_mem inPattern, written.get inPattern inside⟩
  have matches_ (foreign : c ∈ spaces ∨ c ∈ [':', '=', ',', ';', '[', ']']) : False := by
    rw [matchesLetter_eq_false (mem_letters known inName) foreign] at matched
    cases matched
  exact ⟨fun space => matches_ (.inl space), fun sign => matches_ (.inr sign)⟩

end Letters

section Matches
variable {rules : Rules} {prev : Option Char} {head value text rest kept : List Char} {taken : Nat}

theorem isBreak_eq (c : Char) : (!rules.isSpace c && c != ',' && c != ';') = !isBreak rules c := by
  simp [isBreak, bne, Bool.not_or]

theorem isBreak_of_space {c : Char} (space : rules.isSpace c = true) : isBreak rules c = true := by
  simp [isBreak, space]

theorem findSome_name {name : String} {written : List Char} (known : name ∈ assignedNames)
    (writes : Written name.toList written) :
    assignedNames.findSome? (fun name => afterPattern name.toList (written ++ rest)) = some rest := by
  cases found : assignedNames.findSome? fun name => afterPattern name.toList (written ++ rest) with
  | none =>
    have absent := List.findSome?_eq_none_iff.mp found name known
    rw [afterPattern_eq_some.mpr ⟨written, rfl, writes⟩] at absent
    cases absent
  | some other =>
    obtain ⟨otherName, otherKnown, after⟩ := List.exists_of_findSome?_eq_some found
    obtain ⟨otherWritten, same, writesToo⟩ := afterPattern_eq_some.mp after
    exact congrArg some (written_unique known otherKnown writes writesToo same).2.symm

/-- An assignment that stands behind a boundary is found, up to the end of its value. -/
theorem assignment_of_match (documented : rules.Documented) (boundary : Boundary rules prev) (isHead : Head rules head)
    (isValue : Value rules value) (ends : Ends rules rest) :
    assignment rules prev (head ++ (value ++ rest)) = some (head, head.length + value.length) := by
  obtain ⟨name, known, written, gap, sign, space, rfl, writes, gapSpaces, isSign, spaceSpaces⟩ := isHead
  have signVisible : rules.isSpace sign = false := by
    rw [documented.space]
    rcases isSign with rfl | rfl <;> decide
  have sep : (sign == ':' || sign == '=') = true := by rcases isSign with rfl | rfl <;> decide
  have valueRun : ∀ c ∈ value, (!rules.isSpace c && c != ',' && c != ';') = true := fun c member => by
    rw [isBreak_eq, isValue.unbroken c member]
    rfl
  have whole : written ++ (gap ++ sign :: space) ++ (value ++ rest) =
      written ++ (gap ++ sign :: (space ++ (value ++ rest))) := by simp
  have afterGap : (gap ++ sign :: (space ++ (value ++ rest))).dropWhile rules.isSpace =
      sign :: (space ++ (value ++ rest)) := by
    rw [List.dropWhile_append_of_pos gapSpaces, List.dropWhile_cons_of_neg (by simp [signVisible])]
  have afterSpace : (space ++ (value ++ rest)).dropWhile rules.isSpace = value ++ rest := by
    rw [List.dropWhile_append_of_pos spaceSpaces]
    cases value with
    | nil => exact absurd rfl isValue.filled
    | cons c value =>
      have visible := valueRun c List.mem_cons_self
      rw [List.cons_append, List.dropWhile_cons_of_neg (by simp at visible; simp [visible.1.1])]
  have run : (value ++ rest).takeWhile (fun c => !rules.isSpace c && c != ',' && c != ';') = value := by
    rw [List.takeWhile_append_of_pos valueRun]
    cases rest with
    | nil => simp
    | cons c rest =>
      have stop : isBreak rules c = true := ends c rfl
      rw [List.takeWhile_cons_of_neg (by rw [isBreak_eq, stop]; decide), List.append_nil]
  have filled : value.isEmpty = false := by simpa using isValue.filled
  have length : (written ++ (gap ++ sign :: (space ++ (value ++ rest)))).length - (value ++ rest).length =
      (written ++ (gap ++ sign :: space)).length := by
    rw [← whole, List.length_append]
    omega
  unfold Boundary at boundary
  unfold assignment
  rw [boundary, whole, findSome_name known writes]
  simp only [Bool.false_eq_true, if_false, afterGap, sep, if_true, afterSpace, run, filled, length]
  rw [← whole, List.take_left]

theorem forall_takeWhile {p : Char → Bool} {text : List Char} : ∀ c ∈ text.takeWhile p, p c = true :=
  fun _ member => List.mem_takeWhile_imp member

/-- What is found is an assignment. -/
theorem assignment_eq_some (found : assignment rules prev text = some (kept, taken)) :
    Boundary rules prev ∧ ∃ value rest, text = kept ++ (value ++ rest) ∧ Head rules kept ∧ Value rules value ∧
      Ends rules rest ∧ taken = kept.length + value.length := by
  unfold assignment at found
  split at found
  · cases found
  · rename_i boundary
    refine ⟨by simpa [Boundary] using boundary, ?_⟩
    split at found
    · cases found
    · rename_i after named
      obtain ⟨name, known, spelled⟩ := List.exists_of_findSome?_eq_some named
      obtain ⟨written, rfl, writes⟩ := afterPattern_eq_some.mp spelled
      split at found
      · cases found
      · rename_i sign onward gapped
        split at found
        · rename_i isSign
          dsimp only at found
          split at found
          · cases found
          · rename_i filled
            obtain ⟨rfl, rfl⟩ := Prod.mk.inj (Option.some.inj found)
            let gap := after.takeWhile rules.isSpace
            let space := onward.takeWhile rules.isSpace
            let tail := onward.dropWhile rules.isSpace
            let value := tail.takeWhile fun c => !rules.isSpace c && c != ',' && c != ';'
            let rest := tail.dropWhile fun c => !rules.isSpace c && c != ',' && c != ';'
            have afterSplit : after = gap ++ (sign :: onward) := by rw [← gapped, List.takeWhile_append_dropWhile]
            have onwardSplit : onward = space ++ tail := List.takeWhile_append_dropWhile.symm
            have tailSplit : tail = value ++ rest := List.takeWhile_append_dropWhile.symm
            have whole : written ++ after = (written ++ (gap ++ sign :: space)) ++ tail := by
              rw [afterSplit]
              nth_rewrite 1 [onwardSplit]
              simp
            have cutOff : (written ++ after).take ((written ++ after).length - tail.length) =
                written ++ (gap ++ sign :: space) := by
              rw [whole, List.length_append, Nat.add_sub_cancel, List.take_left]
            have count : (written ++ after).length - tail.length = (written ++ (gap ++ sign :: space)).length := by
              rw [whole, List.length_append, Nat.add_sub_cancel]
            refine ⟨value, rest, ?_, ⟨name, known, written, gap, sign, space, cutOff, writes, forall_takeWhile, ?_,
              forall_takeWhile⟩, ⟨?_, fun c member => ?_⟩, ?_, ?_⟩
            · rw [cutOff, ← tailSplit]
              exact whole
            · simpa using isSign
            · exact fun empty => filled (by rw [List.isEmpty_iff]; exact empty)
            · have run := forall_takeWhile c member
              rw [isBreak_eq] at run
              simpa using run
            · intro c first
              have stop := List.head?_dropWhile_not (fun c => !rules.isSpace c && c != ',' && c != ';') tail
              rw [show (tail.dropWhile fun c => !rules.isSpace c && c != ',' && c != ';').head? = some c from first]
                at stop
              simp only [isBreak_eq] at stop
              simpa using stop
            · rw [cutOff, ← count]
        · cases found

theorem subAssignments_skip (prev : Option Char) (skipped rest : List Char) :
    subAssignments rules prev skipped.length (skipped ++ rest) =
      subAssignments rules (skipped.getLast?.or prev) 0 rest := by
  induction skipped generalizing prev with
  | nil => rfl
  | cons c skipped ih =>
    rw [List.length_cons, List.cons_append, subAssignments, ih]
    cases skipped with
    | nil => rfl
    | cons d skipped =>
      rw [List.getLast?_cons_cons, List.getLast?_eq_some_getLast (List.cons_ne_nil d skipped)]
      rfl

end Matches

section Heads
variable {rules : Rules} {prev : Option Char} {head value text rest left right : List Char}

theorem Head.start (isHead : Head rules head) : ∃ c tail, head = c :: tail ∧ c ∉ spaces ∧
    c ∉ [':', '=', ',', ';', '[', ']'] ∧ c ≠ 'R' := by
  obtain ⟨name, known, written, gap, sign, space, rfl, writes, -, -, -⟩ := isHead.parts
  have first : ∀ name ∈ assignedNames, ∃ letter pattern, name.toList = letter :: pattern ∧
      matchesLetter letter 'R' = false := by
    intro name member
    have nonempty : ∀ name ∈ assignedNames, (name.toList.head?.any fun letter => !matchesLetter letter 'R') = true := by
      decide +kernel
    have holds := nonempty name member
    cases letters : name.toList with
    | nil => simp [letters] at holds
    | cons letter pattern => exact ⟨letter, pattern, rfl, by simpa [letters] using holds⟩
  obtain ⟨letter, pattern, spelled, notR⟩ := first name known
  rw [spelled] at writes
  cases writes with
  | @cons _ c _ written matched onward =>
    have whole : Written name.toList (c :: written) := by
      rw [spelled]
      exact .cons matched onward
    have foreign := written_foreign known whole List.mem_cons_self
    refine ⟨c, _, rfl, foreign.1, foreign.2, ?_⟩
    rintro rfl
    rw [notR] at matched
    cases matched

theorem Head.last (isHead : Head rules head) : ∃ c ∈ head.getLast?, c = ':' ∨ c = '=' ∨ rules.isSpace c = true := by
  obtain ⟨name, known, written, gap, sign, space, rfl, writes, gapSpaces, isSign, spaceSpaces⟩ := isHead.parts
  rw [List.getLast?_append, List.getLast?_append, List.getLast?_cons]
  refine ⟨space.getLast?.getD sign, by simp, ?_⟩
  cases last : space.getLast? with
  | none => exact isSign.elim .inl fun same => .inr (.inl same)
  | some c => exact .inr (.inr (spaceSpaces c (List.mem_of_getLast? last)))

theorem redacted_value (documented : rules.Documented) : Value rules redacted := by
  refine ⟨by decide, ?_⟩
  have unbroken : ∀ c ∈ redacted, (SacmRuntime.isSpace c || c == ',' || c == ';') = false := by decide +kernel
  intro c member
  rw [isBreak, documented.space]
  exact unbroken c member

theorem Head.apart (documented : rules.Documented) (isHead : Head rules head) (filled : left ≠ [])
    (begins : left <+: redacted) : ¬left <:+ head := by
  intro suffix
  obtain ⟨c, last, ending⟩ := isHead.last
  have inMark : c ∈ redacted := by
    obtain ⟨before, rfl⟩ := suffix
    rw [List.getLast?_append_of_ne_nil _ filled] at last
    exact begins.subset (List.mem_of_getLast? last)
  rcases ending with rfl | rfl | space
  · exact absurd inMark (by decide)
  · exact absurd inMark (by decide)
  · have unbroken := (redacted_value documented).unbroken c inMark
    rw [isBreak_of_space space] at unbroken
    cases unbroken

/-- No assignment begins within the mark. -/
theorem Head.outside (documented : rules.Documented) (isHead : Head rules head) (split : redacted = left ++ right)
    (filled : left ≠ []) (further : right ≠ []) (boundary : Boundary rules left.getLast?) :
    head ++ text ≠ right ++ rest := by
  have places : ∀ place ∈ List.range 11, place = 0 ∨ place = 10 ∨ (redacted.drop place).head? = some 'R' ∨
      (redacted.take place).getLast?.any Char.isAlphanum = true := by decide +kernel
  have leftTaken : left = redacted.take left.length := by rw [split, List.take_left]
  have rightDropped : right = redacted.drop left.length := by rw [split, List.drop_left]
  have short : left.length ≤ 10 := by
    have total := congrArg List.length split
    rw [List.length_append, show redacted.length = 10 from rfl] at total
    omega
  intro same
  obtain ⟨c, tail, rfl, -, -, notR⟩ := isHead.start
  rcases places left.length (List.mem_range.mpr (by omega)) with none | all | starts | word
  · exact filled (List.length_eq_zero_iff.mp none)
  · exact further (by rw [rightDropped, all]; rfl)
  · rw [← rightDropped] at starts
    cases right with
    | nil => exact further rfl
    | cons d right =>
      cases Option.some.inj starts
      exact notR (List.cons_eq_cons.mp same).1
  · rw [← leftTaken] at word
    cases last : left.getLast? with
    | none => simp [last] at word
    | some d =>
      rw [last] at word boundary
      have isWord := documented.word d (by simpa using word)
      simp [Boundary, isWord] at boundary

/-- A text begins with one assignment at most. -/
theorem Head.unique {other value' rest' : List Char} (documented : rules.Documented) (isHead : Head rules head)
    (isOther : Head rules other) (isValue : Value rules value) (isValue' : Value rules value') (ends : Ends rules rest)
    (ends' : Ends rules rest') (same : head ++ (value ++ rest) = other ++ (value' ++ rest')) :
    head = other ∧ value = value' ∧ rest = rest' := by
  have first : assignment rules none _ = _ := assignment_of_match documented rfl isHead isValue ends
  have second : assignment rules none _ = _ := assignment_of_match documented rfl isOther isValue' ends'
  rw [same, second] at first
  obtain ⟨rfl, lengths⟩ := Prod.mk.inj (Option.some.inj first)
  obtain ⟨rfl, rfl⟩ := List.append_inj (List.append_cancel_left same) (by omega)
  exact ⟨rfl, rfl, rfl⟩

def inName (c : Char) : Bool := decide (c ∉ spaces ∧ c ∉ [':', '='])

theorem takeWhile_name {name : String} {written gap space : List Char} {sign : Char} (documented : rules.Documented)
    (known : name ∈ assignedNames) (writes : Written name.toList written)
    (gapSpaces : ∀ c ∈ gap, rules.isSpace c = true)
    (isSign : sign = ':' ∨ sign = '=') (suffix : text <:+ written) :
    (text ++ (gap ++ sign :: space)).takeWhile inName = text := by
  rw [List.takeWhile_append_of_pos]
  · cases gap with
    | nil =>
      have stops : ¬inName sign = true := by
        rcases isSign with rfl | rfl <;> decide
      rw [List.nil_append, List.takeWhile_cons_of_neg stops, List.append_nil]
    | cons c gap =>
      have space := gapSpaces c List.mem_cons_self
      rw [documented.space] at space
      have stops : ¬inName c = true := by simp [inName, mem_spaces space]
      rw [List.cons_append, List.takeWhile_cons_of_neg stops, List.append_nil]
  · intro c member
    obtain ⟨visible, foreign⟩ := written_foreign known writes (suffix.subset member)
    refine decide_eq_true ⟨visible, fun sign => foreign ?_⟩
    rcases List.mem_cons.mp sign with rfl | equals
    · decide
    · rw [List.mem_singleton.mp equals]
      decide

/-- No assignment begins within the name and sign of another one. -/
theorem Head.inside {head' before after tail : List Char} (documented : rules.Documented) (isHead : Head rules head)
    (isInner : Head rules head') (split : head = before ++ after) (filled : after ≠ [])
    (same : head' ++ text = after ++ tail) : before = [] := by
  obtain ⟨name, known, written, gap, sign, space, rfl, writes, gapSpaces, isSign, spaceSpaces⟩ := isHead.parts
  obtain ⟨c, rest, starts, visible, foreign, -⟩ := isInner.start
  have first : after.head? = some c := by
    cases after with
    | nil => exact absurd rfl filled
    | cons d after =>
      rw [starts] at same
      exact congrArg some (List.cons_eq_cons.mp same).1.symm
  have notBehind : c ∉ gap ++ sign :: space := by
    intro member
    rcases List.mem_append.mp member with inGap | behind
    · have isSpace := gapSpaces c inGap
      rw [documented.space] at isSpace
      exact visible (mem_spaces isSpace)
    · rcases List.mem_cons.mp behind with same | inSpace
      · rcases isSign with rfl | rfl <;> exact foreign (by rw [same]; decide)
      · have isSpace := spaceSpaces c inSpace
        rw [documented.space] at isSpace
        exact visible (mem_spaces isSpace)
  have inAfter : c ∈ after := List.mem_of_head? first
  rcases List.append_eq_append_iff.mp split with ⟨middle, rfl, behind⟩ | ⟨middle, whole, rfl⟩
  · refine absurd ?_ notBehind
    rw [behind]
    exact List.mem_append_right _ inAfter
  · obtain ⟨name', known', written', gap', sign', space', rfl, writes', gapSpaces', isSign', -⟩ := isInner.parts
    have suffix : middle <:+ written := ⟨before, whole.symm⟩
    have outer : ((middle ++ (gap ++ sign :: space)) ++ tail).takeWhile inName = middle := by
      rw [List.append_assoc, List.append_assoc, List.cons_append]
      exact takeWhile_name documented known writes gapSpaces isSign suffix
    rw [← same, List.append_assoc, List.append_assoc, List.cons_append,
      takeWhile_name documented known' writes' gapSpaces' isSign' List.suffix_rfl] at outer
    subst outer
    subst whole
    exact written_end known known' writes writes'

end Heads

section Substitution
variable {rules : Rules} {prev : Option Char} {text : List Char}

def Redacts (rules : Rules) (piece mark : List Char) : Prop := Value rules piece ∧ mark = redacted

/-- Every assignment in the text has its value redacted. -/
def Stable (rules : Rules) (prev : Option Char) (text : List Char) : Prop :=
  ∀ before head value rest, text = before ++ (head ++ (value ++ rest)) → Boundary rules (before.getLast?.or prev) →
    Head rules head → Value rules value → Ends rules rest → value = redacted

variable {head rest value : List Char}

theorem Head.ne_nil (isHead : Head rules head) : head ≠ [] := by
  obtain ⟨c, tail, rfl, -⟩ := isHead.start
  exact List.cons_ne_nil _ _

section
variable (documented : rules.Documented)
include documented

/-- The value of an assignment is replaced by the mark, and the rest goes on behind it. -/
theorem subAssignments_of_match (boundary : Boundary rules prev) (isHead : Head rules head)
    (isValue : Value rules value) (ends : Ends rules rest) :
    subAssignments rules prev 0 (head ++ (value ++ rest)) =
      head ++ (redacted ++ subAssignments rules value.getLast? 0 rest) := by
  have matched := assignment_of_match documented boundary isHead isValue ends
  obtain ⟨c, tail, rfl, -⟩ := isHead.start
  rw [List.cons_append] at matched ⊢
  rw [subAssignments, matched]
  have taken : (c :: tail).length + value.length - 1 = (tail ++ value).length := by
    rw [List.length_cons, List.length_append]
    omega
  have last : (tail ++ value).getLast?.or (some c) = value.getLast? := by
    rw [List.getLast?_append_of_ne_nil _ isValue.filled, List.getLast?_eq_some_getLast isValue.filled]
    rfl
  dsimp only
  rw [taken, ← List.append_assoc tail, subAssignments_skip, last, List.append_assoc]

/-- Induction over a text as the substitution reads it: a character, or a whole
assignment. -/
theorem subAssignments_induction {P : Option Char → List Char → List Char → Prop} (done : ∀ prev, P prev [] [])
    (keep : ∀ prev c rest, assignment rules prev (c :: rest) = none →
      P (some c) rest (subAssignments rules (some c) 0 rest) → P prev (c :: rest)
    (c :: subAssignments rules (some c) 0 rest))
    (swap : ∀ prev head value rest, Boundary rules prev → Head rules head → Value rules value → Ends rules rest →
      P value.getLast? rest (subAssignments rules value.getLast? 0 rest) → P prev (head ++ (value ++ rest))
    (head ++ (redacted ++ subAssignments rules value.getLast? 0 rest))) :
    P prev text (subAssignments rules prev 0 text) := by
  induction count : text.length using Nat.strong_induction_on generalizing prev text with
  | _ n ih =>
    subst count
    cases text with
    | nil => exact done prev
    | cons c rest =>
      cases found : assignment rules prev (c :: rest) with
      | none =>
        rw [subAssignments, found]
        exact keep prev c rest found (ih _ (by simp) rfl)
      | some «match» =>
        obtain ⟨boundary, value, tail, split, isHead, isValue, ends, -⟩ := assignment_eq_some found
        rw [split, subAssignments_of_match documented boundary isHead isValue ends]
        refine swap prev _ value tail boundary isHead isValue ends (ih _ ?_ rfl)
        have filled := List.length_pos_of_ne_nil isHead.ne_nil
        rw [split]
        simp only [List.length_append]
        omega

/-- A text in which every value is redacted stays as it is. -/
theorem Stable.fixed (stable : Stable rules prev text) :
    subAssignments rules prev 0 text = text := by
  revert stable
  refine subAssignments_induction (P := fun prev text new => Stable rules prev text → new = text) documented
    (fun _ _ => rfl) ?_ ?_
  · intro prev c rest _ ih stable
    refine congrArg (c :: ·) (ih fun before head value tail split boundary => ?_)
    refine stable (c :: before) head value tail (by rw [split, List.cons_append]) ?_
    cases before with
    | nil => exact boundary
    | cons d before =>
      rw [List.getLast?_eq_some_getLast (List.cons_ne_nil d before)] at boundary
      rw [List.getLast?_cons_cons, List.getLast?_eq_some_getLast (List.cons_ne_nil d before)]
      exact boundary
  · intro prev head value rest boundary isHead isValue ends ih stable
    have same : value = redacted := stable [] head value rest rfl boundary isHead isValue ends
    subst same
    refine congrArg (fun tail => head ++ (redacted ++ tail)) (ih fun before head' value' tail split inner => ?_)
    refine stable (head ++ (redacted ++ before)) head' value' tail (by simp [split]) ?_
    rw [List.getLast?_append_of_ne_nil _ (by simp [isValue.filled])]
    cases before with
    | nil =>
      rw [List.append_nil, List.getLast?_eq_some_getLast isValue.filled]
      rw [List.getLast?_eq_some_getLast isValue.filled] at inner
      exact inner
    | cons d before =>
      rw [List.getLast?_eq_some_getLast (List.cons_ne_nil d before)] at inner
      rw [List.getLast?_append_of_ne_nil _ (List.cons_ne_nil d before),
        List.getLast?_eq_some_getLast (List.cons_ne_nil d before)]
      exact inner

end

theorem Redacts.starts {old : List Char} (replacement : Replacement (Redacts rules) old (value ++ rest))
    (isValue : Value rules value) : ∃ c tail, old = c :: tail ∧ isBreak rules c = false := by
  obtain ⟨c, tail, rfl⟩ := List.exists_cons_of_ne_nil isValue.filled
  generalize whole : c :: tail ++ rest = new at replacement
  cases replacement with
  | nil => cases whole
  | keep d _ =>
    obtain ⟨rfl, -⟩ := List.cons_eq_cons.mp whole
    exact ⟨c, _, rfl, isValue.unbroken c List.mem_cons_self⟩
  | swap allowed _ =>
    obtain ⟨d, piece, rfl⟩ := List.exists_cons_of_ne_nil allowed.1.filled
    exact ⟨d, _, rfl, allowed.1.unbroken d List.mem_cons_self⟩

end Substitution

end Redaction
end SacmRuntime
