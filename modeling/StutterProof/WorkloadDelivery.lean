import StutterProof.LineSplit
import StutterProof.WorkloadProgress

/-! # What the reader delivers

A poll reads whole lines one after the other, from where the last poll left off.  One that answers
`Ok` gives the record of every line it read; a line that it refuses ends it, and with it goes what
it read before. -/
namespace Stutter.Workload

variable {parse : List UInt8 → Option WorkloadProgress} {call : PollCall}

/-! ## One turn -/

/-- The line that is read next, without its end, as far as it is written. -/
def nextLine (pending unread : List UInt8) : List UInt8 :=
  (pending ++ unread).takeWhile (· ≠ newline)

/-- Why a poll stops that refuses no line. -/
def Stops (call : PollCall) (pending unread : List UInt8) (error : String) : Prop :=
  (∃ turn, call.host.fillBuf turn = .error error) ∨
    error = "workload progress marker exceeds 64 KiB" ∧ 65_536 ≤ (nextLine pending unread).length

/-- What a turn can be. -/
inductive TurnSpec (parse : List UInt8 → Option WorkloadProgress) (call : PollCall)
    (state : PollState) :
    PollState ⊕ Polled → Prop where
  | done : 128 ≤ state.processed ∨ state.unread = [] →
      TurnSpec parse call state (.inr (state.stop (.ok state.records)))
  | stopped {error : String} : Stops call state.pending state.unread error →
      TurnSpec parse call state (.inr (state.stop (.error error)))
  | piece {piece after : List UInt8} : state.processed < 128 → piece ≠ [] → newline ∉ piece →
      state.unread = piece ++ after →
      TurnSpec parse call state
        (.inl ⟨state.turn + 1, state.processed, state.pending ++ piece, after, state.records⟩)
  | line {body after : List UInt8} {found : Option WorkloadProgressRecord} : state.processed < 128 →
      newline ∉ body → state.unread = body ++ newline :: after →
      readMarker parse call (call.host.clockGettimeNs state.processed)
        (state.pending ++ body ++ [newline]) =
        .ok found →
      TurnSpec parse call state
        (.inl ⟨state.turn + 1, state.processed + 1, [], after, state.records ++ found.toList⟩)
  | refused {body after : List UInt8} {error : String} : state.processed < 128 → newline ∉ body →
      state.unread = body ++ newline :: after →
      readMarker parse call (call.host.clockGettimeNs state.processed)
        (state.pending ++ body ++ [newline]) =
        .error error →
      TurnSpec parse call state (.inr ⟨[], after, .error error⟩)

theorem lineEnd_of_not_mem {available : List UInt8} (h : newline ∉ available) :
    lineEnd available = available.length := by
  have hnone : available.findIdx? (· = newline) = none :=
    List.findIdx?_eq_none_iff.mpr fun byte hbyte => decide_eq_false fun heq => h (heq ▸ hbyte)
  rw [lineEnd, hnone]

theorem lineEnd_of_line {body : List UInt8} (h : newline ∉ body) (after : List UInt8) :
    lineEnd (body ++ newline :: after) = body.length + 1 := by
  have hsome : (body ++ newline :: after).findIdx? (· = newline) = some body.length := by
    have hnone : body.findIdx? (· = newline) = none :=
      List.findIdx?_eq_none_iff.mpr fun byte hbyte => decide_eq_false fun heq => h (heq ▸ hbyte)
    rw [List.findIdx?_append, hnone]
    simp [List.findIdx?_cons]
  rw [lineEnd, hsome]

/-- Bytes end a line, or are a part of one. -/
theorem exists_line_or_not_mem (available : List UInt8) :
    newline ∉ available ∨ ∃ body after, newline ∉ body ∧ available = body ++ newline :: after := by
  by_cases h : newline ∈ available
  · obtain ⟨body, after, heq, hbody⟩ := List.eq_append_cons_of_mem h
    exact .inr ⟨body, after, hbody, heq⟩
  · exact .inl h

/-- The next line goes on as long as no end of it was read. -/
theorem length_le_nextLine {pending piece : List UInt8} (hpending : newline ∉ pending)
    (hpiece : newline ∉ piece) (after : List UInt8) :
    pending.length + piece.length ≤ (nextLine pending (piece ++ after)).length := by
  have hopen : ∀ byte ∈ pending ++ piece, decide (byte ≠ newline) = true := by
    intro byte hbyte
    refine decide_eq_true fun heq => ?_
    rcases List.mem_append.mp (heq ▸ hbyte) with hmem | hmem
    · exact hpending hmem
    · exact hpiece hmem
  rw [nextLine, ← List.append_assoc, List.takeWhile_append_of_pos hopen, List.length_append,
    List.length_append]
  omega

theorem finishLine_spec {state : PollState} {body after : List UInt8}
    (hprocessed : state.processed < 128) (hbody : newline ∉ body)
    (hunread : state.unread = body ++ newline :: after) :
    TurnSpec parse call state
      (finishLine parse call
        ⟨state.turn + 1, state.processed, state.pending ++ body ++ [newline], after,
          state.records⟩) := by
  rw [finishLine]
  dsimp only
  cases hmarker : readMarker parse call (call.host.clockGettimeNs state.processed)
      (state.pending ++ body ++ [newline]) with
  | error error => exact .refused hprocessed hbody hunread hmarker
  | ok found =>
    have hline := TurnSpec.line hprocessed hbody hunread hmarker
    cases found with
    | none =>
      rw [Option.toList_none, List.append_nil] at hline
      exact hline
    | some record => exact hline

theorem pollTurn_spec (parse : List UInt8 → Option WorkloadProgress) (call : PollCall)
    {state : PollState} (hpending : newline ∉ state.pending) :
    TurnSpec parse call state (pollTurn parse call state) := by
  rw [pollTurn]
  by_cases hprocessed : state.processed < 128
  swap
  · rw [if_neg hprocessed]
    exact .done (.inl (by omega))
  rw [if_pos hprocessed]
  cases hfill : call.host.fillBuf state.turn with
  | error error => exact .stopped (.inl ⟨state.turn, hfill⟩)
  | ok size =>
    dsimp only
    generalize havailable : state.unread.take (max 1 size) = available
    have hsplit : state.unread = available ++ state.unread.drop (max 1 size) := by
      rw [← havailable, List.take_append_drop]
    generalize state.unread.drop (max 1 size) = more at hsplit
    by_cases hempty : available = []
    · have hunread : state.unread = [] := by
        rcases List.take_eq_nil_iff.mp (havailable.trans hempty) with hzero | hnil
        · omega
        · exact hnil
      rw [hempty, List.isEmpty_nil, if_pos rfl]
      exact .done (.inr hunread)
    rw [if_neg (by rw [List.isEmpty_iff]; exact hempty)]
    rcases exists_line_or_not_mem available with hopen | ⟨body, rest, hbody, rfl⟩
    · rw [lineEnd_of_not_mem hopen, List.take_length, hsplit, List.drop_left]
      by_cases hlong : 65_536 < state.pending.length + available.length
      · rw [if_pos hlong]
        have hnext := length_le_nextLine hpending hopen more
        exact .stopped (.inr ⟨rfl, by rw [hsplit]; omega⟩)
      · have hlast : (state.pending ++ available).getLast? ≠ some newline := by
          intro hlast
          rw [List.getLast?_append_of_ne_nil _ hempty] at hlast
          exact hopen (List.mem_of_getLast? hlast)
        rw [if_neg hlong, if_pos hlast]
        exact .piece hprocessed hempty hopen hsplit
    · rw [List.append_assoc, List.cons_append] at hsplit
      have htake : (body ++ newline :: rest).take (body.length + 1) = body ++ [newline] := by
        rw [List.append_cons, List.take_left' (by rw [List.length_append, List.length_singleton])]
      have hdrop : state.unread.drop (body.length + 1) = rest ++ more := by
        rw [hsplit, List.append_cons,
          List.drop_left' (by rw [List.length_append, List.length_singleton])]
      rw [lineEnd_of_line hbody, htake, hdrop, ← List.append_assoc]
      by_cases hlong : 65_536 < state.pending.length + (body.length + 1)
      · rw [if_pos hlong]
        have hnext := length_le_nextLine hpending hbody (newline :: (rest ++ more))
        exact .stopped (.inr ⟨rfl, by rw [hsplit]; omega⟩)
      · have hlast : ¬(state.pending ++ body ++ [newline]).getLast? ≠ some newline := by
          rw [List.getLast?_concat, ne_eq, not_not]
        rw [if_neg hlong, if_neg hlast]
        exact finishLine_spec hprocessed hbody hsplit

/-! ## One poll -/

/-- The records of lines that are read one after the other, or what the first refused line is
refused with. -/
def recordsOf (parse : List UInt8 → Option WorkloadProgress) (call : PollCall) :
    Nat → List (List UInt8) → Except String (List WorkloadProgressRecord)
  | _, [] => .ok []
  | n, line :: lines =>
    match readMarker parse call (call.host.clockGettimeNs n) (line ++ [newline]) with
    | .error error => .error error
    | .ok found => (recordsOf parse call (n + 1) lines).map (found.toList ++ ·)

theorem recordsOf_concat {n : Nat} {lines : List (List UInt8)}
    {records : List WorkloadProgressRecord} (h : recordsOf parse call n lines = .ok records)
    (line : List UInt8) :
    recordsOf parse call n (lines ++ [line]) =
      (readMarker parse call (call.host.clockGettimeNs (n + lines.length)) (line ++ [newline])).map
        (records ++ ·.toList) := by
  induction lines generalizing n records with
  | nil =>
    obtain rfl := Except.ok.inj h
    rw [List.nil_append, recordsOf, List.length_nil, Nat.add_zero]
    cases readMarker parse call (call.host.clockGettimeNs n) (line ++ [newline]) with
    | error error => rfl
    | ok found => simp [recordsOf, Except.map]
  | cons first lines ih =>
    rw [recordsOf] at h
    rw [List.cons_append, recordsOf]
    cases hfirst : readMarker parse call (call.host.clockGettimeNs n) (first ++ [newline]) with
    | error error =>
      rw [hfirst] at h
      contradiction
    | ok found =>
      rw [hfirst] at h
      dsimp only at h ⊢
      cases hlater : recordsOf parse call (n + 1) lines with
      | error error =>
        rw [hlater] at h
        contradiction
      | ok later =>
        rw [hlater] at h
        obtain rfl := Except.ok.inj h
        rw [ih hlater, List.length_cons, Nat.add_right_comm n 1, ← Nat.add_assoc n]
        cases readMarker parse call (call.host.clockGettimeNs (n + lines.length + 1))
          (line ++ [newline]) with
        | error error => rfl
        | ok last => simp [Except.map, List.append_assoc]

/-- The lines that were finished by bytes read after `pending`, and what is left. -/
abbrev linesOf (bytes : List UInt8) : List (List UInt8) × List UInt8 :=
  LineSplit.lines newline bytes

open LineSplit

theorem linesOf_piece (bytes : List UInt8) {piece : List UInt8} (hpiece : newline ∉ piece) :
    linesOf (bytes ++ piece) = ((linesOf bytes).1, (linesOf bytes).2 ++ piece) := by
  have hopen : newline ∉ (linesOf bytes).2 ++ piece := by
    rw [List.mem_append]
    exact fun hmem => hmem.elim (not_mem_left bytes) hpiece
  rw [linesOf, lines_append, lines_of_not_mem hopen, List.append_nil]

theorem linesOf_line (bytes : List UInt8) {body : List UInt8} (hbody : newline ∉ body) :
    linesOf (bytes ++ (body ++ [newline])) =
      ((linesOf bytes).1 ++ [(linesOf bytes).2 ++ body], []) := by
  have hopen : newline ∉ (linesOf bytes).2 ++ body := by
    rw [List.mem_append]
    exact fun hmem => hmem.elim (not_mem_left bytes) hbody
  rw [linesOf, lines_append, ← List.append_assoc, lines_append_separator hopen]
  rfl

/-- What the loop of a poll has read so far. -/
structure ReadSoFar (parse : List UInt8 → Option WorkloadProgress) (call : PollCall)
    (start : PollState)
    (read : List UInt8) (state : PollState) : Prop where
  unread : start.unread = read ++ state.unread
  pending : (linesOf (start.pending ++ read)).2 = state.pending
  processed : (linesOf (start.pending ++ read)).1.length = state.processed
  few : state.processed ≤ 128
  records : recordsOf parse call 0 (linesOf (start.pending ++ read)).1 = .ok state.records

/-- **What a poll makes of the lines it reads.** -/
inductive Outcome (parse : List UInt8 → Option WorkloadProgress) (call : PollCall)
    (lines : List (List UInt8))
    (pending unread : List UInt8) : Except String (List WorkloadProgressRecord) → Prop where
  | served {records : List WorkloadProgressRecord} : recordsOf parse call 0 lines = .ok records →
      lines.length ≤ 128 → lines.length = 128 ∨ unread = [] →
        Outcome parse call lines pending unread (.ok records)
  | stopped {records : List WorkloadProgressRecord} {error : String} :
      recordsOf parse call 0 lines = .ok records →
      lines.length ≤ 128 → call.host.metadataFails = some error ∨ Stops call pending unread error →
      Outcome parse call lines pending unread (.error error)
  | refused {front : List (List UInt8)} {line : List UInt8} {records : List WorkloadProgressRecord}
      {error : String} :
      lines = front ++ [line] → front.length < 128 → recordsOf parse call 0 front = .ok records →
      readMarker parse call (call.host.clockGettimeNs front.length)
        (line ++ [newline]) = .error error →
      Outcome parse call lines pending unread (.error error)

/-- The loop's result tells what was read. -/
def ReadAll (parse : List UInt8 → Option WorkloadProgress) (call : PollCall) (start : PollState)
    (polled : Polled) : Prop :=
  ∃ read, start.unread = read ++ polled.unread ∧
    (linesOf (start.pending ++ read)).2 = polled.pending ∧
    Outcome parse call (linesOf (start.pending ++ read)).1 polled.pending polled.unread
      polled.result

variable {read : List UInt8}

theorem ReadSoFar.not_mem_pending {start state : PollState}
    (h : ReadSoFar parse call start read state) : newline ∉ state.pending :=
  h.pending ▸ not_mem_left _

theorem readSoFar_start {start : PollState} (hpending : newline ∉ start.pending)
    (hprocessed : start.processed = 0) (hrecords : start.records = []) :
    ReadSoFar parse call start [] start := by
  have hlines : linesOf (start.pending ++ []) = ([], start.pending) := by
    rw [List.append_nil]
    exact lines_of_not_mem hpending
  constructor
  · rfl
  · rw [hlines]
  · rw [hlines, hprocessed, List.length_nil]
  · omega
  · rw [hlines, hrecords, recordsOf]

/-- What one turn that goes on adds. -/
theorem readSoFar_turn {start state next : PollState} (h : ReadSoFar parse call start read state)
    (hgoes : StepLoop.Goes (pollTurn parse call) state next) :
    ∃ more, ReadSoFar parse call start more next := by
  have hspec := pollTurn_spec parse call h.not_mem_pending
  rw [show pollTurn parse call state = .inl next from hgoes] at hspec
  cases hspec with
  | @piece piece after hprocessed _ hpiece hunread =>
    refine ⟨read ++ piece, ?_⟩
    have hlines := linesOf_piece (start.pending ++ read) hpiece
    rw [List.append_assoc] at hlines
    constructor
    · rw [h.unread, hunread, List.append_assoc]
    · rw [hlines, h.pending]
    · rw [hlines, h.processed]
    · exact h.few
    · rw [hlines, h.records]
  | @line body after found hprocessed hbody hunread hmarker =>
    refine ⟨read ++ (body ++ [newline]), ?_⟩
    have hlines := linesOf_line (start.pending ++ read) hbody
    rw [List.append_assoc] at hlines
    constructor
    · rw [h.unread, hunread, List.append_assoc, List.append_assoc, List.singleton_append]
    · rw [hlines]
    · rw [hlines, List.length_append, List.length_singleton, h.processed]
    · dsimp only
      omega
    · rw [hlines, recordsOf_concat h.records, h.processed, Nat.zero_add, h.pending, hmarker]
      rfl

theorem readAll_of_result {start state : PollState} (h : ReadSoFar parse call start read state)
    {polled : Polled} (hresult : pollTurn parse call state = .inr polled) :
    ReadAll parse call start polled := by
  have hspec := pollTurn_spec parse call h.not_mem_pending
  rw [hresult] at hspec
  have hfew : (linesOf (start.pending ++ read)).1.length ≤ 128 := h.processed ▸ h.few
  cases hspec with
  | done hend =>
    refine ⟨read, h.unread, h.pending, .served h.records hfew ?_⟩
    rcases hend with hmany | hnone
    · exact .inl (by rw [h.processed]; exact Nat.le_antisymm h.few hmany)
    · exact .inr hnone
  | stopped hstops => exact ⟨read, h.unread, h.pending, .stopped h.records hfew (.inr hstops)⟩
  | @refused body after error hprocessed hbody hunread hmarker =>
    have hlines := linesOf_line (start.pending ++ read) hbody
    rw [List.append_assoc] at hlines
    refine ⟨read ++ (body ++ [newline]), ?_, ?_, ?_⟩
    · rw [h.unread, hunread, List.append_assoc, List.append_assoc, List.singleton_append]
    · rw [hlines]
    · rw [hlines, h.pending]
      refine .refused rfl (by rw [h.processed]; exact hprocessed) h.records ?_
      rw [h.processed]
      exact hmarker

theorem readAll_of_ends (start : PollState) (hpending : newline ∉ start.pending)
    (hprocessed : start.processed = 0) (hrecords : start.records = []) {polled : Polled}
    (hends : StepLoop.Ends (pollTurn parse call) start polled) :
    ReadAll parse call start polled := by
  refine hends.post (fun state => ∃ read, ReadSoFar parse call start read state) _
    ⟨[], readSoFar_start hpending hprocessed hrecords⟩ ?_ ?_
  · rintro state next ⟨read, hread⟩ hgoes
    exact readSoFar_turn hread hgoes
  · rintro state result ⟨read, hread⟩ hresult
    exact readAll_of_result hread hresult

/-- Each turn that goes on reads something. -/
theorem poll_ends (parse : List UInt8 → Option WorkloadProgress) (call : PollCall)
    (start : PollState) (hpending : newline ∉ start.pending) :
    ∃ polled, StepLoop.Ends (pollTurn parse call) start polled := by
  refine StepLoop.ends_of_measure (pollTurn parse call) (fun state => state.unread.length)
    (fun state => newline ∉ state.pending) hpending ?_
  intro state next hstate hgoes
  have hspec := pollTurn_spec parse call hstate
  rw [show pollTurn parse call state = .inl next from hgoes] at hspec
  cases hspec with
  | @piece piece after _ hsome hpiece hunread =>
    refine ⟨fun hmem => (List.mem_append.mp hmem).elim hstate hpiece, ?_⟩
    have hlength := List.length_pos_of_ne_nil hsome
    rw [hunread, List.length_append]
    dsimp only
    omega
  | @line body after found _ _ hunread _ =>
    refine ⟨List.not_mem_nil, ?_⟩
    rw [hunread, List.length_append, List.length_cons]
    dsimp only
    omega

/-! ## Sessions -/

/-- One poll of a session: the lines it read, and what it left. -/
structure PollEntry where
  call : PollCall
  lines : List (List UInt8)
  pending : List UInt8
  unread : List UInt8
  result : Except String (List WorkloadProgressRecord)

/-- A reader and the log it follows; `opened` is where the log ended when it was opened. -/
structure Session where
  file : LogFile
  opened : Nat
  reader : WorkloadProgressReader
  polls : List PollEntry

/-- The bytes that were appended since and that the reader is past. -/
def Session.consumed (session : Session) : List UInt8 :=
  (session.file.content.take session.reader.position).drop session.opened

/-- The lines that were finished while the reader moved on. -/
def linesBetween (file : LogFile) (reader after : WorkloadProgressReader) : List (List UInt8) :=
  (linesOf (reader.pending ++ (file.content.take after.position).drop reader.position)).1

def Session.polled (session : Session) (call : PollCall) (after : WorkloadProgressReader)
    (result : Except String (List WorkloadProgressRecord)) : Session :=
  { session with
    reader := after
    polls := session.polls ++ [{
      call
      lines := linesBetween session.file session.reader after
      pending := after.pending
      unread := session.file.content.drop after.position
      result }] }

/-- A session in which others append to the log and the reader polls it, in any order. -/
inductive Session.Reach (parse : List UInt8 → Option WorkloadProgress) : Session → Prop where
  | openTail (file : LogFile) : Reach parse ⟨file, file.content.length, openTail file, []⟩
  | append {session : Session} (bytes : List UInt8) : Reach parse session →
      Reach parse { session with
        file := { session.file with content := session.file.content ++ bytes } }
  | poll {session : Session} {call : PollCall} {after : WorkloadProgressReader}
      {result : Except String (List WorkloadProgressRecord)} : Reach parse session →
      Poll parse session.file call session.reader after result →
        Reach parse (session.polled call after result)

/-- What holds of every session. -/
structure Session.Kept (parse : List UInt8 → Option WorkloadProgress) (session : Session) :
    Prop where
  same : session.file.identity = session.reader.identity
  opened : session.opened ≤ session.reader.position
  position : session.reader.position ≤ session.file.content.length
  lines : session.polls.flatMap PollEntry.lines = (linesOf session.consumed).1
  pending : (linesOf session.consumed).2 = session.reader.pending
  outcome : ∀ poll ∈ session.polls,
    Outcome parse poll.call poll.lines poll.pending poll.unread poll.result

namespace Session

variable {session : Session}

theorem Kept.not_mem_pending (h : session.Kept parse) : newline ∉ session.reader.pending :=
  h.pending ▸ not_mem_left _

theorem kept_openTail (file : LogFile) :
    Kept parse ⟨file, file.content.length, Workload.openTail file, []⟩ := by
  have hconsumed : consumed ⟨file, file.content.length, Workload.openTail file, []⟩ = [] :=
    List.drop_eq_nil_of_le (List.length_take_le _ _)
  refine ⟨rfl, Nat.le_refl _, Nat.le_refl _, ?_, ?_,
    fun poll hpoll => absurd hpoll List.not_mem_nil⟩
  · rw [hconsumed]
    rfl
  · rw [hconsumed]
    rfl

theorem kept_append (h : session.Kept parse) (bytes : List UInt8) :
    Kept parse { session with
      file := { session.file with content := session.file.content ++ bytes } } := by
  have hconsumed : consumed { session with
      file := { session.file with content := session.file.content ++ bytes } } =
      session.consumed := by
    rw [consumed, consumed, List.take_append_of_le_length h.position]
  refine ⟨h.same, h.opened, ?_, ?_, ?_, h.outcome⟩
  · dsimp only
    rw [List.length_append]
    exact Nat.le_trans h.position (Nat.le_add_right _ _)
  · rw [hconsumed]
    exact h.lines
  · rw [hconsumed]
    exact h.pending

/-- A poll that moves the reader past `read`. -/
theorem kept_moved (h : session.Kept parse) {call : PollCall} {after : WorkloadProgressReader}
    {result : Except String (List WorkloadProgressRecord)} (read : List UInt8) {unread : List UInt8}
    (hsame : after.identity = session.reader.identity)
    (hunread : session.file.content.drop session.reader.position = read ++ unread)
    (hposition : after.position = session.reader.position + read.length)
    (hpending : (linesOf (session.reader.pending ++ read)).2 = after.pending)
    (houtcome : Outcome parse call (linesOf (session.reader.pending ++ read)).1 after.pending unread
      result) :
    (session.polled call after result).Kept parse := by
  have hfront := List.length_take_of_le h.position
  have hcontent : session.file.content =
      session.file.content.take session.reader.position ++ read ++ unread := by
    rw [List.append_assoc, ← hunread, List.take_append_drop]
  have hlength : (session.file.content.take session.reader.position ++ read).length =
      after.position := by
    rw [List.length_append, hfront, hposition]
  have htake : session.file.content.take after.position =
      session.file.content.take session.reader.position ++ read := by
    rw [← hlength]
    exact (congrArg (List.take _) hcontent).trans List.take_left
  have hdrop : session.file.content.drop after.position = unread := by
    rw [← hlength]
    exact (congrArg (List.drop _) hcontent).trans List.drop_left
  have hbetween : linesBetween session.file session.reader after =
      (linesOf (session.reader.pending ++ read)).1 := by
    rw [linesBetween, htake, List.drop_left' hfront]
  have hconsumed : (session.polled call after result).consumed = session.consumed ++ read := by
    rw [consumed, consumed, polled]
    dsimp only
    rw [htake, List.drop_append_of_le_length (hfront.symm ▸ h.opened)]
  have hlines : linesOf (session.consumed ++ read) =
      ((linesOf session.consumed).1 ++ (linesOf (session.reader.pending ++ read)).1,
        (linesOf (session.reader.pending ++ read)).2) := by
    rw [← h.pending]
    exact lines_append session.consumed read
  constructor
  · exact h.same.trans hsame.symm
  · exact hposition ▸ Nat.le_trans h.opened (Nat.le_add_right _ _)
  · exact hlength ▸ (congrArg List.length hcontent).symm ▸ (List.prefix_append _ _).length_le
  · rw [hconsumed, hlines, polled, List.flatMap_append, h.lines, List.flatMap_singleton, hbetween]
  · rw [hconsumed, hlines]
    exact hpending
  · intro poll hpoll
    rcases List.mem_append.mp hpoll with hmem | hmem
    · exact h.outcome poll hmem
    · rw [List.mem_singleton.mp hmem]
      dsimp only
      rw [hbetween, hdrop]
      exact houtcome

theorem checkLog_eq (h : session.Kept parse) (call : PollCall) :
    checkLog session.reader session.file call =
      match call.host.metadataFails with
      | some error => .error error
      | none => .ok () := by
  have hgood : ¬(session.file.identity ≠ session.reader.identity ∨
      session.file.content.length < session.reader.position) := by
    rintro (hother | hshort)
    · exact hother h.same
    · exact absurd h.position (Nat.not_le.mpr hshort)
  unfold checkLog
  cases call.host.metadataFails with
  | none => exact if_neg hgood
  | some error => rfl

theorem kept_poll (h : session.Kept parse) {call : PollCall} {after : WorkloadProgressReader}
    {result : Except String (List WorkloadProgressRecord)}
    (hpoll : Poll parse session.file call session.reader after result) :
    (session.polled call after result).Kept parse := by
  cases hpoll with
  | @refused error hcheck =>
    rw [checkLog_eq h] at hcheck
    have hfails : call.host.metadataFails = some error := by
      cases hfails : call.host.metadataFails with
      | none =>
        rw [hfails] at hcheck
        contradiction
      | some other =>
        rw [hfails] at hcheck
        rw [Except.error.inj hcheck]
    have hlines : linesOf (session.reader.pending ++ []) = ([], session.reader.pending) := by
      rw [List.append_nil]
      exact lines_of_not_mem h.not_mem_pending
    refine kept_moved h [] rfl rfl rfl (by rw [hlines]) ?_
    rw [hlines]
    exact .stopped rfl (Nat.zero_le _) (.inl hfails)
  | @read polled hcheck hends =>
    obtain ⟨read, hunread, hpending, houtcome⟩ :=
      readAll_of_ends (session.reader.begin session.file)
      h.not_mem_pending rfl rfl hends
    have hlength := congrArg List.length hunread
    rw [WorkloadProgressReader.begin, List.length_drop, List.length_append] at hlength
    refine kept_moved h read rfl hunread ?_ hpending houtcome
    have hposition := h.position
    rw [WorkloadProgressReader.leave]
    dsimp only
    omega

theorem Reach.kept (h : session.Reach parse) : session.Kept parse := by
  induction h with
  | openTail file => exact kept_openTail file
  | append bytes _ ih => exact kept_append ih bytes
  | poll _ hpoll ih => exact kept_poll ih hpoll

theorem consumed_prefix (session : Session) :
    session.consumed <+: session.file.content.drop session.opened := by
  rw [consumed, List.drop_take]
  exact List.take_prefix _ _

/-- A session can always poll. -/
theorem Kept.exists_poll (h : session.Kept parse) (call : PollCall) :
    ∃ after result, Poll parse session.file call session.reader after result := by
  cases hcheck : checkLog session.reader session.file call with
  | error error => exact ⟨_, _, .refused hcheck⟩
  | ok =>
    obtain ⟨polled, hends⟩ :=
      poll_ends parse call (session.reader.begin session.file) h.not_mem_pending
    exact ⟨_, _, .read hcheck hends⟩

end Session

/-! ## Fixed work -/

theorem checkedSub_eq_some_iff {left right delta : Nat} :
    checkedSub left right = some delta ↔ right ≤ left ∧ left - right = delta := by
  rw [checkedSub]
  by_cases h : left < right
  · rw [if_pos h]
    constructor
    · intro hnone
      contradiction
    · rintro ⟨hle, _⟩
      omega
  · rw [if_neg h, Option.some_inj]
    exact (and_iff_right (Nat.not_lt.mp h)).symm

/-- What two markers of one execution agree in. -/
structure Matches (start complete : WorkloadProgress) : Prop where
  started : start.phase = .start
  completed : complete.phase = .complete
  executionId : start.executionId = complete.executionId
  identity : start.identity = complete.identity
  source : start.source = complete.source
  targetRootPid : start.targetRootPid = complete.targetRootPid
  targetStarttimeTicks : start.targetStarttimeTicks = complete.targetStarttimeTicks
  totalUnits : start.totalUnits = complete.totalUnits
  elapsed : start.monotonicNs ≤ complete.monotonicNs ∧
    complete.monotonicNs - start.monotonicNs = complete.elapsedNs

theorem matches_of_validate {measurement : FixedWorkMeasurement}
    (h : measurement.validate = .ok ()) :
    Matches measurement.start measurement.complete := by
  rw [FixedWorkMeasurement.validate] at h
  cases hstart : measurement.start.validate with
  | error error =>
    rw [hstart] at h
    contradiction
  | ok =>
    cases hcomplete : measurement.complete.validate with
    | error error =>
      rw [hstart, hcomplete] at h
      contradiction
    | ok =>
      rw [hstart, hcomplete] at h
      dsimp only at h
      split at h
      · contradiction
      · rename_i hsame
        simp only [not_or, ne_eq, not_not] at hsame
        obtain ⟨hstarted, hcompleted, hid, hidentity, hsource, hpid, hticks, hunits, helapsed⟩ :=
          hsame
        exact ⟨hstarted, hcompleted, hid, hidentity, hsource, hpid, hticks, hunits,
          checkedSub_eq_some_iff.mp helapsed⟩

theorem completedFixedWork_ok {markers : List WorkloadProgress} {measurement : FixedWorkMeasurement}
    (h : completedFixedWork markers = .ok measurement) :
    ∃ start complete, markers = [start, complete] ∧ Matches start complete ∧
      measurement.elapsedNs = .ok (complete.monotonicNs - start.monotonicNs) := by
  rw [completedFixedWork.eq_def] at h
  split at h
  · rename_i start complete
    dsimp only at h
    cases hvalid : (FixedWorkMeasurement.mk start complete).validate with
    | error error =>
      rw [hvalid] at h
      contradiction
    | ok =>
      rw [hvalid] at h
      obtain rfl := Except.ok.inj h
      have hmatches := matches_of_validate hvalid
      refine ⟨start, complete, rfl, hmatches, ?_⟩
      rw [FixedWorkMeasurement.elapsedNs, hvalid]
      exact congrArg Except.ok hmatches.elapsed.2.symm
  · contradiction

/-! ## Delivery -/

/-- **Every line is read by one poll, in the order of the log.**  A poll that answers `Ok` gives the
records of all lines it read; a refused line, or a host that fails, makes the whole poll an
error. -/
theorem polls_deliver {session : Session} (hreach : session.Reach parse) :
    session.consumed <+: session.file.content.drop session.opened ∧
      session.polls.flatMap PollEntry.lines = (linesOf session.consumed).1 ∧
      (linesOf session.consumed).2 = session.reader.pending ∧
      (∀ poll ∈ session.polls,
        Outcome parse poll.call poll.lines poll.pending poll.unread poll.result) ∧
      (∀ call, ∃ after result, Poll parse session.file call session.reader after result) ∧
      ∀ markers measurement, completedFixedWork markers = .ok measurement →
        ∃ start complete, markers = [start, complete] ∧ Matches start complete ∧
          measurement.elapsedNs = .ok (complete.monotonicNs - start.monotonicNs) := by
  have hkept := hreach.kept
  exact ⟨session.consumed_prefix, hkept.lines, hkept.pending, hkept.outcome, hkept.exists_poll,
    fun _ _ => completedFixedWork_ok⟩

/-! ## A malformed line -/

/-- The markers of one compilation. -/
def sampleProgress (phase : WorkloadPhase) (monotonicNs elapsedNs completedUnits : Nat) :
    WorkloadProgress where
  schemaVersion := 1
  executionId := "run-1"
  identity := ⟨.compile, "git:0123456789abcdef0123456789abcdef01234567", "all", "clean", "none", 4,
    ["make"], "/work", "rustc 1.90", "env"⟩
  source := .externalMarker
  phase := phase
  targetRootPid := 42
  targetStarttimeTicks := 100
  monotonicNs := monotonicNs
  elapsedNs := elapsedNs
  completedUnits := completedUnits
  totalUnits := some 1

/-- Such a marker as JSON, in pieces. -/
def sampleText (phase monotonicNs elapsedNs completedUnits : String) : List String :=
  ["\x7b\"schema_version\":1,\"execution_id\":\"run-1\",\"identity\":\x7b\"kind\":\"compile\",",
    "\"source_tree\":\"git:0123456789abcdef0123456789abcdef01234567\",\"target\":\"all\",",
    "\"build_state\":\"clean\",\"cache_policy\":\"none\",\"job_count\":4,\"command\":[\"make\"],",
    "\"working_directory\":\"/work\",\"toolchain\":\"rustc 1.90\",\"environment\":\"env\"\x7d,",
    "\"source\":\"external_marker\",\"phase\":\"", phase, "\",\"target_root_pid\":42,",
    "\"target_starttime_ticks\":100,\"monotonic_ns\":", monotonicNs, ",\"elapsed_ns\":", elapsedNs,
    ",\"completed_units\":", completedUnits, ",\"total_units\":1\x7d"]

def lineOf (pieces : List String) : List UInt8 := pieces.flatMap (·.toUTF8.data.toList) ++ [newline]

def sampleStart : WorkloadProgress := sampleProgress .start 3_000_000 0 0

def startLine : List UInt8 := lineOf (sampleText "WORKLOAD_START" "3000000" "0" "0")

def sampleComplete : WorkloadProgress := sampleProgress .complete 13_000_000 10_000_000 1

def completeLine : List UInt8 := lineOf (sampleText "WORKLOAD_COMPLETE" "13000000" "10000000" "1")

/-- A marker that was cut off. -/
def malformedLine : List UInt8 := lineOf ["\x7b\"schema_version\":1,\"execution_id\":\"run-1\","]

/-- What the JSON reader makes of these lines. -/
def sampleParse (line : List UInt8) : Option WorkloadProgress :=
  if line = startLine then some sampleStart
  else if line = completeLine then some sampleComplete
  else none

def sampleCall : PollCall :=
  ⟨⟨none, fun _ => .ok 8192, fun _ => .ok 15_000_000⟩, 1_000_000, 15_000_000⟩

/-- A log that ends with a marker of an earlier build when it is opened, and to which these bytes
are appended. -/
def sampleSession (bytes : List UInt8) : Session :=
  ⟨⟨(1, 2), completeLine ++ bytes⟩, completeLine.length, openTail ⟨(1, 2), completeLine⟩, []⟩

def pollSample (session : Session) (polled : Polled) : Session :=
  session.polled sampleCall (session.reader.leave session.file polled) polled.result

theorem reach_pollSample {session : Session} (hreach : session.Reach sampleParse) {polled : Polled}
    (turns : Nat)
    (hcheck : checkLog session.reader session.file sampleCall = .ok ())
    (hrun : StepLoop.run (pollTurn sampleParse sampleCall) turns
      (session.reader.begin session.file) = some polled) :
    (pollSample session polled).Reach sampleParse :=
  .poll hreach (.read hcheck ⟨turns, hrun⟩)

/-- The first poll comes when the second marker is half written. -/
def startPolled : Session :=
  pollSample (sampleSession (startLine ++ completeLine.take 300))
    ⟨completeLine.take 300, [], .ok [⟨2, sampleStart⟩]⟩

theorem reach_startPolled : startPolled.Reach sampleParse :=
  reach_pollSample (.append _ (.openTail ⟨(1, 2), completeLine⟩)) 3 (by decide +kernel)
    (by decide +kernel)

/-- Then the log goes on. -/
def startPolledThen (bytes : List UInt8) : Session :=
  { startPolled with file := { startPolled.file with
    content := startPolled.file.content ++ bytes } }

def completePolled : Session :=
  pollSample (startPolledThen (completeLine.drop 300)) ⟨[], [], .ok [⟨12, sampleComplete⟩]⟩

theorem reach_completePolled : completePolled.Reach sampleParse :=
  reach_pollSample (.append _ reach_startPolled) 2 (by decide +kernel) (by decide +kernel)

/-- The two markers are read by two polls, and the work took ten milliseconds. -/
theorem polls_deliver_sample :
    completePolled.polls.map PollEntry.result =
      [.ok [⟨2, sampleStart⟩], .ok [⟨12, sampleComplete⟩]] ∧
      completePolled.polls.flatMap PollEntry.lines = (linesOf completePolled.consumed).1 ∧
      (FixedWorkMeasurement.mk sampleStart sampleComplete).elapsedNs = .ok 10_000_000 := by
  obtain ⟨_, hlines, _, _, _, hwork⟩ := polls_deliver reach_completePolled
  obtain ⟨_, _, hmarkers, _, helapsed⟩ :=
    hwork [sampleStart, sampleComplete] ⟨sampleStart, sampleComplete⟩ (by decide +kernel)
  obtain ⟨rfl, hcomplete⟩ := List.cons.inj hmarkers
  obtain ⟨rfl, _⟩ := List.cons.inj hcomplete
  exact ⟨rfl, hlines, helapsed⟩

/-- A poll with nothing before it finds no record. -/
theorem records_of_nothing {file : LogFile} {reader after : WorkloadProgressReader}
    {records : List WorkloadProgressRecord} (hrest : reader.begin file = ⟨0, 0, [], [], []⟩)
    (hpoll : Poll parse file call reader after (.ok records)) : records = [] := by
  generalize hresult : (Except.ok records : Except String (List WorkloadProgressRecord)) =
    result at hpoll
  cases hpoll with
  | refused _ => contradiction
  | @read polled _ hends =>
    rw [hrest] at hends
    obtain ⟨read, hunread, _, houtcome⟩ := readAll_of_ends _ List.not_mem_nil rfl rfl hends
    obtain ⟨rfl, _⟩ := List.append_eq_nil_iff.mp hunread.symm
    rw [← hresult] at houtcome
    cases houtcome with
    | served hrecords _ _ => exact (Except.ok.inj hrecords).symm

def malformedPolled : Session :=
  pollSample (startPolledThen (completeLine.drop 300 ++ malformedLine))
    ⟨[], [], .error "malformed workload progress marker"⟩

theorem reach_malformedPolled : malformedPolled.Reach sampleParse :=
  reach_pollSample (.append _ reach_startPolled) 2 (by decide +kernel) (by decide +kernel)

/-- The record of a valid line is lost with the poll that reads a malformed line after it: that poll
is an error, it has read the whole log, and what a later poll gives has no record. -/
theorem malformedLine_drops :
    ∃ session : Session, session.Reach sampleParse ∧
      session.consumed = startLine ++ completeLine ++ malformedLine ∧
      session.file.content = completeLine ++ session.consumed ∧
      readMarker sampleParse sampleCall (.ok 15_000_000) completeLine =
        .ok (some ⟨12, sampleComplete⟩) ∧
      session.polls.map PollEntry.result =
        [.ok [⟨2, sampleStart⟩], .error "malformed workload progress marker"] ∧
      ∀ call after records, Poll sampleParse session.file call session.reader after (.ok records) →
        records = [] := by
  refine ⟨malformedPolled, reach_malformedPolled, by decide +kernel, by decide +kernel,
    by decide +kernel, rfl, ?_⟩
  intro call after records
  have hrest : malformedPolled.reader.begin malformedPolled.file =
      ⟨0, 0, [], [], []⟩ := by decide +kernel
  exact records_of_nothing hrest

end Stutter.Workload
