import SacmRuntime.Lib.PythonRepr
import SacmRuntime.Lib.Utf8
import SacmRuntime.Runtime.EvidenceService

namespace SacmRuntime
open EvidenceService (lineBreak splitLines)

/-- What `json.loads` does with a text: it raises `JSONDecodeError` where the
text is invalid, and it raises something else, which is caught nowhere, where
the text is nested too deeply or has too long an integer. -/
inductive Loaded where
  | value (document : Json)
  | invalid
  | raises
  deriving DecidableEq

/-- `json.loads` of a text, as `_run` calls it and, one call further down, as
`_json_events` does, and `repr` of a text. -/
structure StreamEnv where
  loads : List Char → Loaded
  loadsBelow : List Char → Loaded
  quoted : String → List Char

/-- What is documented of `json.loads`: newlines after a document are skipped,
other breaks of lines are no white space, no document is empty, and a call
further down has less depth left for the nesting of a text. -/
structure ReadsLines (env : StreamEnv) : Prop where
  blank : env.loads [] = .invalid
  feed : ∀ text, env.loads (text ++ ['\n']) = env.loads text
  carriage : ∀ text, env.loads (text ++ ['\r']) = env.loads text
  other : ∀ text c, lineBreak c = true → c ≠ '\n' → c ≠ '\r' →
    env.loads (text ++ [c]) = if env.loads text = .raises then .raises else .invalid
  below : ∀ text, env.loadsBelow text = .raises ∨ env.loadsBelow text = env.loads text

/-- The lines of a text, each with the break that ends it. -/
def brokenLines : List Char → List (List Char × List Char)
  | [] => []
  | '\r' :: '\n' :: rest => ([], ['\r', '\n']) :: brokenLines rest
  | c :: rest =>
    if lineBreak c then ([], [c]) :: brokenLines rest
    else
      match brokenLines rest with
      | [] => [([c], [])]
      | (line, ending) :: lines => (c :: line, ending) :: lines

/-- `text.splitlines(keepends=True)`. -/
def keptLines (text : List Char) : List (List Char) := (brokenLines text).map fun line => line.1 ++ line.2

/-- What `_run` keeps of `stdout` while it is open: the decoded text, the line
that is still pending, and the events it has passed on. -/
structure LiveOutput where
  text : List Char := []
  pending : List Char := []
  events : List Json := []

/-- The parts of the result of `_run` that come from `stdout`. -/
structure ToolOutput where
  stdout : List Char
  events : List Json

/-- The event that a line is, if it is one. -/
def Loaded.events : Loaded → List Json
  | .value (.obj fields) => [.obj fields]
  | _ => []

namespace CodexExecutorAdapter
variable (env : StreamEnv)

/-- The events of some lines, unless `json.loads` raises at one of them. -/
def eventsOf (loads : List Char → Loaded) : List (List Char) → Option (List Json)
  | [] => some []
  | line :: rest =>
    if loads line = .raises then none else (eventsOf loads rest).map ((loads line).events ++ ·)

/-- `_json_events`. -/
def jsonEvents (output : List Char) : Option (List Json) := eventsOf env.loadsBelow (splitLines output)

/-- `line.endswith(("\n", "\r"))`. -/
def endsWithNewline (line : List Char) : Bool := line.getLast? = some '\n' || line.getLast? = some '\r'

/-- What is done for one chunk of `stdout`. -/
def receive (s : LiveOutput) (chunk : List UInt8) : Option LiveOutput :=
  let text := Utf8.decode chunk
  let lines := keptLines (s.pending ++ text)
  match lines.getLast? with
  | some last =>
    if endsWithNewline last then
      (eventsOf env.loads lines).map fun events =>
        { text := s.text ++ text, pending := [], events := s.events ++ events }
    else
      (eventsOf env.loads lines.dropLast).map fun events =>
        { text := s.text ++ text, pending := last, events := s.events ++ events }
  | none => some { s with text := s.text ++ text, pending := [] }

def received (chunks : List (List UInt8)) : Option LiveOutput := chunks.foldlM (receive env) {}

/-- `_run`, of a tool that exits after the chunks. -/
def run (chunks : List (List UInt8)) : Option ToolOutput := do
  let output ← received env chunks
  let events ← jsonEvents env output.text
  some { stdout := output.text.drop (output.text.length - 20000), events := events }

/-- `isinstance(value, int)`. -/
def isInt : Json → Bool
  | .int _ | .bool _ => true
  | _ => false

/-- `str(value)`. -/
def str (value : Json) : Json :=
  match value with
  | .str s => .str s
  | other => .str (String.ofList (other.repr env.quoted))

/-- A record of `_usage_from_events`. -/
def usageRecord (provider : String) (model inputTokens outputTokens : Json) (more : List (String × Json)) : Json :=
  .obj ([("provider", .str provider), ("model", model), ("operation", .str "code_execution"),
    ("input_tokens", inputTokens), ("output_tokens", outputTokens)] ++ more)

/-- What `_usage_from_events` makes of one event. -/
def usageOf (provider : String) (event : Json) : Option Json :=
  let data :=
    match event.get "data" with
    | .obj fields => Json.obj fields
    | _ => .obj []
  match (event.get "usage").orElse (data.get "usage") with
  | .obj fields =>
    let payload := Json.obj fields
    let inputTokens := (payload.field? "input_tokens").getD (payload.get "prompt_tokens")
    let outputTokens := (payload.field? "output_tokens").getD ((payload.field? "completion_tokens").getD (.int 0))
    if isInt inputTokens && isInt outputTokens then
      let model := ((event.get "model").orElse (data.get "model")).orElse (.str "unknown")
      some (usageRecord provider (str env model) inputTokens outputTokens [])
    else none
  | _ =>
    if event.get "type" = .str "assistant.message" then
      let outputTokens := data.get "outputTokens"
      if isInt outputTokens then
        some (usageRecord provider (str env ((data.get "model").orElse (.str "unknown"))) (.int 0) outputTokens [])
      else none
    else if event.get "type" = .str "session.usage_checkpoint" then
      let premium := data.get "totalPremiumRequests"
      let total := data.get "totalNanoAiu"
      if isInt premium || isInt total then
        some (usageRecord provider (.str "subscription") (.int 0) (.int 0)
          ((if isInt premium then [("premium_requests", premium)] else []) ++
            if isInt total then [("total_nano_aiu", total)] else []))
      else none
    else none

end CodexExecutorAdapter

open CodexExecutorAdapter

/-- `json.loads` raises nothing but `JSONDecodeError` at the lines of the text. -/
def LinesLoad (env : StreamEnv) (text : List Char) : Prop := ∀ line ∈ splitLines text, env.loadsBelow line ≠ .raises

def eventOf (env : StreamEnv) (line : List Char) : List Json := (env.loads line).events

section Lines
variable {env : StreamEnv} {text line first rest : List Char}

def EndedLine (line : List Char × List Char) : Prop :=
  (∀ c ∈ line.1, lineBreak c = false) ∧ (line.2 = ['\r', '\n'] ∨ ∃ c, lineBreak c = true ∧ line.2 = [c])

def OpenLine (line : List Char × List Char) : Prop :=
  (∀ c ∈ line.1, lineBreak c = false) ∧ line.1 ≠ [] ∧ line.2 = []

variable {c : Char} {entry : List Char × List Char} {lines : List (List Char × List Char)} {s : LiveOutput}

theorem brokenLines_cons (unpaired : ∀ tail, c = '\r' → rest = '\n' :: tail → False) :
    brokenLines (c :: rest) = if lineBreak c then ([], [c]) :: brokenLines rest else
      match brokenLines rest with
      | [] => [([c], [])]
      | (line, ending) :: lines => (c :: line, ending) :: lines :=
  brokenLines.eq_3 c rest unpaired

theorem unbroken_cons {line : List Char} (unbroken : ¬lineBreak c = true) (plain : ∀ d ∈ line, lineBreak d = false) :
    ∀ d ∈ c :: line, lineBreak d = false := by
  intro d member
  rcases List.mem_cons.mp member with rfl | inLine
  · simpa using unbroken
  · exact plain d inLine

theorem brokenLines_shape (text : List Char) : ∃ ended last, brokenLines text = ended ++ last ∧
    (∀ line ∈ ended, EndedLine line) ∧ (last = [] ∨ ∃ line, last = [line] ∧ OpenLine line) := by
  induction text using brokenLines.induct with
  | case1 => exact ⟨[], [], rfl, fun line member => (by cases member), .inl rfl⟩
  | case2 rest ih =>
    obtain ⟨ended, last, lines, breaks, final⟩ := ih
    refine ⟨([], ['\r', '\n']) :: ended, last, by rw [brokenLines, lines]; rfl, fun line member => ?_, final⟩
    rcases List.mem_cons.mp member with rfl | inRest
    · exact ⟨fun c inside => (by cases inside), .inl rfl⟩
    · exact breaks line inRest
  | case3 c rest unpaired broken ih =>
    obtain ⟨ended, last, lines, breaks, final⟩ := ih
    refine ⟨([], [c]) :: ended, last, ?_, fun line member => ?_, final⟩
    · rw [brokenLines_cons unpaired, if_pos broken, lines]
      rfl
    · rcases List.mem_cons.mp member with rfl | inRest
      · exact ⟨fun c inside => (by cases inside), .inr ⟨c, broken, rfl⟩⟩
      · exact breaks line inRest
  | case4 c rest unpaired unbroken none ih =>
    refine ⟨[], [([c], [])], ?_, fun line member => (by cases member), .inr ⟨_, rfl, ?_, by simp, rfl⟩⟩
    · rw [brokenLines_cons unpaired, if_neg unbroken, none]
      rfl
    · exact unbroken_cons unbroken fun d inside => (by cases inside)
  | case5 c rest unpaired unbroken line ending lines found ih =>
    obtain ⟨ended, last, split, breaks, final⟩ := ih
    rw [brokenLines_cons unpaired, if_neg unbroken, found]
    rw [found] at split
    cases ended with
    | nil =>
      rcases final with rfl | ⟨open_, rfl, plain, -, noEnding⟩
      · cases split
      · obtain ⟨rfl, rfl⟩ := List.cons.inj split
        exact ⟨[], _, rfl, fun line member => (by cases member),
          .inr ⟨_, rfl, unbroken_cons unbroken plain, by simp, noEnding⟩⟩
    | cons head ended =>
      obtain ⟨rfl, rest_⟩ := List.cons.inj split
      have here := breaks _ List.mem_cons_self
      refine ⟨(c :: line, ending) :: ended, last, by rw [rest_]; rfl, fun other member => ?_, final⟩
      rcases List.mem_cons.mp member with rfl | later
      · exact ⟨unbroken_cons unbroken here.1, here.2⟩
      · exact breaks other (List.mem_cons_of_mem _ later)

theorem keptLines_flatten (text : List Char) : (keptLines text).flatten = text := by
  unfold keptLines
  induction text using brokenLines.induct with
  | case1 => rfl
  | case2 rest ih =>
    rw [brokenLines, List.map_cons, List.flatten_cons, ih]
    rfl
  | case3 c rest unpaired broken ih =>
    rw [brokenLines_cons unpaired, if_pos broken, List.map_cons, List.flatten_cons, ih]
    rfl
  | case4 c rest unpaired unbroken none ih =>
    rw [brokenLines_cons unpaired, if_neg unbroken, none]
    rw [none] at ih
    rw [← ih]
    rfl
  | case5 c rest unpaired unbroken line ending lines found ih =>
    rw [brokenLines_cons unpaired, if_neg unbroken, found]
    rw [found, List.map_cons, List.flatten_cons] at ih
    simp only [List.map_cons, List.flatten_cons, List.cons_append]
    rw [ih]

/-- `splitlines` gives the lines without their breaks. -/
theorem splitLines_eq (text : List Char) : splitLines text = (brokenLines text).map Prod.fst := by
  induction text using brokenLines.induct with
  | case1 => rfl
  | case2 rest ih => rw [brokenLines, splitLines, ih, List.map_cons]
  | case3 c rest unpaired broken ih =>
    rw [brokenLines_cons unpaired, splitLines.eq_3 c rest unpaired, if_pos broken, if_pos broken, ih, List.map_cons]
  | case4 c rest unpaired unbroken none ih =>
    rw [brokenLines_cons unpaired, splitLines.eq_3 c rest unpaired, if_neg unbroken, if_neg unbroken, ih, none]
    rfl
  | case5 c rest unpaired unbroken line ending lines found ih =>
    rw [brokenLines_cons unpaired, splitLines.eq_3 c rest unpaired, if_neg unbroken, if_neg unbroken, ih, found]
    rfl

/-- The pieces of a text between its breaks, each break on its own. -/
def pieces : List Char → List (List Char × Option Char)
  | [] => []
  | c :: rest =>
    if lineBreak c then ([], some c) :: pieces rest
    else
      match pieces rest with
      | [] => [([c], none)]
      | (line, ending) :: more => (c :: line, ending) :: more

/-- The events that are passed on for a piece: those that a newline ends. -/
def liveOf (env : StreamEnv) (piece : List Char × Option Char) : List Json :=
  if piece.2 = some '\n' ∨ piece.2 = some '\r' then eventOf env piece.1 else []

def liveEvents (env : StreamEnv) (text : List Char) : List Json := (pieces text).flatMap (liveOf env)

/-- `json.loads` raises at no piece of the text. -/
def Quiet (env : StreamEnv) (text : List Char) : Prop := ∀ piece ∈ pieces text, env.loads piece.1 ≠ .raises

def Sealed (text : List Char) : Prop := ∀ c, text.getLast? = some c → lineBreak c = true

theorem Sealed.tail (sealed_ : Sealed (c :: rest)) : Sealed rest := by
  intro d last
  cases rest with
  | nil => cases last
  | cons e rest =>
    refine sealed_ d ?_
    rw [List.getLast?_cons_cons]
    exact last

theorem pieces_append (sealed_ : Sealed first) : pieces (first ++ rest) = pieces first ++ pieces rest := by
  induction first with
  | nil => rfl
  | cons c first ih =>
    have later := ih sealed_.tail
    rw [List.cons_append, pieces, pieces, later]
    by_cases broken : lineBreak c = true
    · rw [if_pos broken, if_pos broken]
      rfl
    · rw [if_neg broken, if_neg broken]
      cases first with
      | nil => exact absurd (sealed_ c rfl) broken
      | cons d first =>
        have some_ : pieces (d :: first) ≠ [] := by
          rw [pieces]
          split
          · simp
          · split <;> simp
        cases found : pieces (d :: first) with
        | nil => exact absurd found some_
        | cons piece more => rfl

theorem pieces_plain {ending : Char} (plain : ∀ c ∈ line, lineBreak c = false) (broken : lineBreak ending = true) :
    pieces (line ++ [ending]) = [(line, some ending)] := by
  induction line with
  | nil => simp [pieces, broken]
  | cons c line ih =>
    have unbroken : ¬lineBreak c = true := by simp [plain c List.mem_cons_self]
    rw [List.cons_append, pieces, if_neg unbroken, ih fun d member => plain d (List.mem_cons_of_mem _ member)]

theorem pieces_open (plain : ∀ c ∈ line, lineBreak c = false) (present : line ≠ []) :
    pieces line = [(line, none)] := by
  induction line with
  | nil => exact absurd rfl present
  | cons c line ih =>
    have unbroken : ¬lineBreak c = true := by simp [plain c List.mem_cons_self]
    rw [pieces, if_neg unbroken]
    cases line with
    | nil => rfl
    | cons d line => rw [ih (fun e member => plain e (List.mem_cons_of_mem _ member)) (by simp)]

theorem sealed_snoc (broken : lineBreak c = true) : Sealed (text ++ [c]) := by
  intro d last
  rw [List.getLast?_concat] at last
  cases Option.some.inj last
  exact broken

theorem pieces_pair (plain : ∀ c ∈ line, lineBreak c = false) :
    pieces (line ++ ['\r', '\n']) = [(line, some '\r'), ([], some '\n')] := by
  have split : line ++ ['\r', '\n'] = (line ++ ['\r']) ++ ['\n'] := by simp
  rw [split, pieces_append (sealed_snoc rfl), pieces_plain plain rfl]
  rfl

theorem EndedLine.sealed (ended : EndedLine entry) : Sealed (entry.1 ++ entry.2) := by
  rcases ended.2 with pair | ⟨c, broken, single⟩
  · rw [pair]
    have split : entry.1 ++ ['\r', '\n'] = (entry.1 ++ ['\r']) ++ ['\n'] := by simp
    rw [split]
    exact sealed_snoc rfl
  · rw [single]
    exact sealed_snoc broken

theorem eventOf_nil (reads : ReadsLines env) : eventOf env [] = [] := by
  unfold eventOf
  rw [reads.blank]
  rfl

def liveLine (env : StreamEnv) (line : List Char × List Char) : List Json :=
  if line.2 ∈ [['\n'], ['\r'], ['\r', '\n']] then eventOf env line.1 else []

theorem eventOf_ended (reads : ReadsLines env) (ended : EndedLine entry) :
    eventOf env (entry.1 ++ entry.2) = liveLine env entry := by
  unfold liveLine
  rcases ended.2 with pair | ⟨c, broken, single⟩
  · have split : entry.1 ++ ['\r', '\n'] = (entry.1 ++ ['\r']) ++ ['\n'] := by simp
    rw [pair, if_pos (by simp), split]
    unfold eventOf
    rw [reads.feed, reads.carriage]
  · rw [single]
    by_cases feed : c = '\n'
    · subst feed
      rw [if_pos (by simp)]
      unfold eventOf
      rw [reads.feed]
    · by_cases carriage : c = '\r'
      · subst carriage
        rw [if_pos (by simp)]
        unfold eventOf
        rw [reads.carriage]
      · rw [if_neg (by simp [feed, carriage])]
        unfold eventOf
        rw [reads.other _ c broken feed carriage]
        split <;> rfl

theorem liveEvents_ended (reads : ReadsLines env) (ended : EndedLine entry) :
    liveEvents env (entry.1 ++ entry.2) = liveLine env entry := by
  unfold liveEvents liveLine
  rcases ended.2 with pair | ⟨c, broken, single⟩
  · rw [pair, pieces_pair ended.1]
    simp [liveOf, eventOf_nil reads]
  · rw [single, pieces_plain ended.1 broken]
    simp [liveOf]

theorem liveEvents_append (sealed_ : Sealed first) :
    liveEvents env (first ++ rest) = liveEvents env first ++ liveEvents env rest := by
  unfold liveEvents
  rw [pieces_append sealed_, List.flatMap_append]

def joinedLines (lines : List (List Char × List Char)) : List Char := (lines.map fun line => line.1 ++ line.2).flatten

theorem joinedLines_cons (entry : List Char × List Char) (lines : List (List Char × List Char)) :
    joinedLines (entry :: lines) = (entry.1 ++ entry.2) ++ joinedLines lines := rfl

theorem liveEvents_lines (reads : ReadsLines env) (ended : ∀ line ∈ lines, EndedLine line) :
    liveEvents env (joinedLines lines) = lines.flatMap (liveLine env) := by
  induction lines with
  | nil => rfl
  | cons entry lines ih =>
    have here := ended entry List.mem_cons_self
    rw [joinedLines_cons, liveEvents_append here.sealed, liveEvents_ended reads here,
      ih fun line member => ended line (List.mem_cons_of_mem _ member), List.flatMap_cons]

theorem sealed_lines (ended : ∀ line ∈ lines, EndedLine line) :
    Sealed (joinedLines lines) := by
  induction lines with
  | nil =>
    intro c last
    cases last
  | cons entry lines ih =>
    rw [joinedLines_cons]
    intro c last
    have later := ih fun line member => ended line (List.mem_cons_of_mem _ member)
    rw [List.getLast?_append] at last
    cases final : (joinedLines lines).getLast? with
    | some d =>
      rw [final] at last
      cases Option.some.inj last
      exact later _ final
    | none =>
      rw [final] at last
      exact (ended entry List.mem_cons_self).sealed c last

theorem joinedLines_append (lines others : List (List Char × List Char)) :
    joinedLines (lines ++ others) = joinedLines lines ++ joinedLines others := by
  unfold joinedLines
  rw [List.map_append, List.flatten_append]

theorem joinedLines_broken (text : List Char) : joinedLines (brokenLines text) = text := keptLines_flatten text

theorem liveEvents_open (open_ : OpenLine entry) :
    liveEvents env (entry.1 ++ entry.2) = [] := by
  unfold liveEvents
  rw [open_.2.2, List.append_nil, pieces_open open_.1 open_.2.1]
  rfl

/-- What `_run` has kept after some chunks: it has passed on the events of the
text up to the pending line, which ends in no newline. -/
structure Receiving (env : StreamEnv) (s : LiveOutput) : Prop where
  settled : ∃ done, s.text = done ++ s.pending ∧ Sealed done ∧ s.events = liveEvents env done
  pending : liveEvents env s.pending = []

theorem Receiving.events (receiving : Receiving env s) : s.events = liveEvents env s.text := by
  obtain ⟨done, text, sealed_, events⟩ := receiving.settled
  rw [text, liveEvents_append sealed_, receiving.pending, List.append_nil, events]

theorem sealed_append (sealedFirst : Sealed first) (sealedRest : Sealed rest) : Sealed (first ++ rest) := by
  intro c last
  rw [List.getLast?_append] at last
  cases final : rest.getLast? with
  | some d =>
    rw [final] at last
    cases Option.some.inj last
    exact sealedRest _ final
  | none =>
    rw [final] at last
    exact sealedFirst c last

theorem eventsOf_some {loads : List Char → Loaded} {lines : List (List Char)} {events : List Json} :
    eventsOf loads lines = some events ↔
      (∀ line ∈ lines, loads line ≠ .raises) ∧ lines.flatMap (fun line => (loads line).events) = events := by
  induction lines generalizing events with
  | nil => simp [eventsOf]
  | cons line lines ih =>
    rw [eventsOf, List.forall_mem_cons, List.flatMap_cons]
    by_cases raises : loads line = .raises
    · simp [raises]
    · rw [if_neg raises, Option.map_eq_some_iff]
      constructor
      · rintro ⟨others, listed, rfl⟩
        obtain ⟨quiet, rfl⟩ := ih.mp listed
        exact ⟨⟨raises, quiet⟩, rfl⟩
      · rintro ⟨⟨-, quiet⟩, rfl⟩
        exact ⟨_, ih.mpr ⟨quiet, rfl⟩, rfl⟩

theorem quiet_append (sealed_ : Sealed first) : Quiet env (first ++ rest) ↔ Quiet env first ∧ Quiet env rest := by
  unfold Quiet
  rw [pieces_append sealed_, List.forall_mem_append]

theorem EndedLine.quiet_iff (reads : ReadsLines env) (ended : EndedLine entry) :
    Quiet env (entry.1 ++ entry.2) ↔ env.loads entry.1 ≠ .raises := by
  unfold Quiet
  rcases ended.2 with pair | ⟨c, broken, single⟩
  · rw [pair, pieces_pair ended.1]
    simp [reads.blank]
  · rw [single, pieces_plain ended.1 broken]
    simp

theorem EndedLine.loads_raises (reads : ReadsLines env) (ended : EndedLine entry)
    (raises : env.loads (entry.1 ++ entry.2) = .raises) : env.loads entry.1 = .raises := by
  rcases ended.2 with pair | ⟨c, broken, single⟩
  · have split : entry.1 ++ ['\r', '\n'] = (entry.1 ++ ['\r']) ++ ['\n'] := by simp
    rwa [pair, split, reads.feed, reads.carriage] at raises
  · rw [single] at raises
    by_cases feed : c = '\n'
    · rwa [feed, reads.feed] at raises
    · by_cases carriage : c = '\r'
      · rwa [carriage, reads.carriage] at raises
      · rw [reads.other _ c broken feed carriage] at raises
        exact by_contra fun loads => by simp [loads] at raises

theorem quiet_lines (reads : ReadsLines env) (ended : ∀ line ∈ lines, EndedLine line) :
    Quiet env (joinedLines lines) ↔ ∀ line ∈ lines, env.loads line.1 ≠ .raises := by
  induction lines with
  | nil => simp [joinedLines, Quiet, pieces]
  | cons entry lines ih =>
    have here := ended entry List.mem_cons_self
    rw [joinedLines_cons, quiet_append here.sealed, here.quiet_iff reads,
      ih fun line member => ended line (List.mem_cons_of_mem _ member), List.forall_mem_cons]

/-- The events of lines that are passed on. -/
theorem eventsOf_ended (reads : ReadsLines env) (ended : ∀ line ∈ lines, EndedLine line)
    (quiet : Quiet env (joinedLines lines)) :
    eventsOf env.loads (lines.map fun line => line.1 ++ line.2) = some (liveEvents env (joinedLines lines)) := by
  refine eventsOf_some.mpr ⟨?_, ?_⟩
  · rw [List.forall_mem_map]
    exact fun line member raises =>
      (quiet_lines reads ended).mp quiet line member ((ended line member).loads_raises reads raises)
  · rw [liveEvents_lines reads ended, List.flatMap_map]
    exact List.flatMap_congr fun line member => eventOf_ended reads (ended line member)

theorem endsWithNewline_open (open_ : OpenLine entry) :
    endsWithNewline (entry.1 ++ entry.2) = false := by
  unfold endsWithNewline
  rw [open_.2.2, List.append_nil]
  have plain : ∀ c, entry.1.getLast? = some c → lineBreak c = false :=
    fun c last => open_.1 c (List.mem_of_getLast? last)
  have feed : entry.1.getLast? ≠ some '\n' := fun last => absurd (plain _ last) (by decide)
  have carriage : entry.1.getLast? ≠ some '\r' := fun last => absurd (plain _ last) (by decide)
  simp [feed, carriage]

theorem liveLine_pending (ended : EndedLine entry) (pending : endsWithNewline (entry.1 ++ entry.2) = false) :
    liveLine env entry = [] := by
  unfold liveLine endsWithNewline at *
  rcases ended.2 with pair | ⟨c, broken, single⟩
  · rw [pair] at pending
    simp at pending
  · rw [single, List.getLast?_concat] at pending
    rw [single]
    refine if_neg ?_
    simp only [Option.some.injEq, Bool.or_eq_false_iff, decide_eq_false_iff_not] at pending
    simp [pending.1, pending.2]

theorem Receiving.receive (reads : ReadsLines env) (receiving : Receiving env s) {chunk : List UInt8}
    {later : List Char}
    (quiet : Quiet env (s.text ++ Utf8.decode chunk ++ later)) :
    ∃ s', receive env s chunk = some s' ∧ Receiving env s' := by
  obtain ⟨done, text, sealed_, events⟩ := receiving.settled
  obtain ⟨ended, last, lines, breaks, final⟩ := brokenLines_shape (s.pending ++ Utf8.decode chunk)
  have whole := joinedLines_broken (s.pending ++ Utf8.decode chunk)
  have kept : keptLines (s.pending ++ Utf8.decode chunk) = (ended ++ last).map fun line => line.1 ++ line.2 := by
    unfold keptLines
    rw [lines]
  rw [lines, joinedLines_append] at whole
  -- the text is what was done, the ended lines and the last one
  have grown : s.text ++ Utf8.decode chunk = done ++ (joinedLines ended ++ joinedLines last) := by
    rw [whole, text, List.append_assoc]
  rw [grown, List.append_assoc, List.append_assoc, quiet_append sealed_, quiet_append (sealed_lines breaks)] at quiet
  have listed := eventsOf_ended reads breaks quiet.2.1
  unfold CodexExecutorAdapter.receive
  simp only [kept]
  rcases final with rfl | ⟨entry, rfl, open_⟩
  · rw [List.append_nil]
    rcases List.eq_nil_or_concat ended with rfl | ⟨init, entry, rfl⟩
    · simp only [List.map_nil, List.getLast?_nil]
      exact ⟨_, rfl, ⟨done, by simpa [joinedLines] using grown, sealed_, events⟩, rfl⟩
    · have entryEnded := breaks entry (by simp)
      have initEnded : ∀ line ∈ init, EndedLine line := fun line member => breaks line (by simp [member])
      have text_ : joinedLines [entry] = entry.1 ++ entry.2 := List.append_nil _
      simp only [List.concat_eq_append, List.map_append, List.map_cons, List.map_nil] at listed
      simp only [List.concat_eq_append, List.map_append, List.map_cons, List.map_nil, List.getLast?_concat]
      simp only [List.concat_eq_append, joinedLines_append, text_] at grown quiet
      cases newline : endsWithNewline (entry.1 ++ entry.2) with
      | true =>
        rw [if_pos rfl, listed]
        refine ⟨_, rfl, ⟨done ++ joinedLines (init ++ [entry]), ?_, ?_, ?_⟩, rfl⟩
        · rw [List.append_nil]
          simpa [joinedLines_append, text_, joinedLines] using grown
        · refine sealed_append sealed_ (sealed_lines ?_)
          simpa using breaks
        · rw [liveEvents_append sealed_, ← events]
      | false =>
        rw [if_neg (by simp), List.dropLast_concat,
          eventsOf_ended reads initEnded ((quiet_append (sealed_lines initEnded)).mp quiet.2.1).1]
        refine ⟨_, rfl, ⟨done ++ joinedLines init, ?_, sealed_append sealed_ (sealed_lines initEnded), ?_⟩, ?_⟩
        · simpa [joinedLines] using grown
        · rw [liveEvents_append sealed_, ← events]
        · change liveEvents env (entry.1 ++ entry.2) = []
          rw [liveEvents_ended reads entryEnded, liveLine_pending entryEnded newline]
  · have text_ : joinedLines [entry] = entry.1 ++ entry.2 := List.append_nil _
    simp only [List.map_append, List.map_cons, List.map_nil, List.getLast?_concat]
    rw [if_neg (by rw [endsWithNewline_open open_]; simp), List.dropLast_concat, listed]
    refine ⟨_, rfl, ⟨done ++ joinedLines ended, ?_, sealed_append sealed_ (sealed_lines breaks), ?_⟩,
      liveEvents_open open_⟩
    · rw [text_] at grown
      simpa using grown
    · rw [liveEvents_append sealed_, ← events]

theorem LinesLoad.same (reads : ReadsLines env) (load : LinesLoad env text) {line : List Char}
    (member : line ∈ splitLines text) : env.loadsBelow line = env.loads line :=
  (reads.below line).resolve_left (load line member)

/-- The events of lines that all load. -/
theorem LinesLoad.jsonEvents (reads : ReadsLines env) (load : LinesLoad env text) :
    CodexExecutorAdapter.jsonEvents env text = some ((brokenLines text).flatMap fun line => eventOf env line.1) := by
  refine eventsOf_some.mpr ⟨load, ?_⟩
  rw [List.flatMap_congr fun line member => congrArg Loaded.events (load.same reads member), splitLines_eq,
    List.flatMap_map]
  rfl

end Lines

namespace StreamSample

/-- The loading of an empty object. -/
def loads (text : List Char) : Loaded :=
  if text.reverse.dropWhile (fun c => c = '\n' ∨ c = '\r') = ['\x7d', '\x7b'] then .value (.obj []) else .invalid

def env : StreamEnv where
  loads := loads
  loadsBelow := loads
  quoted s := s.toList

end StreamSample

end SacmRuntime
