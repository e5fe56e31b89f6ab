import Rehearsal.Proofs.Backend.Call
/-!
# The backlog of a connection

An agent that answers every request by one line owes a line for each request whose answer has not
been read. A caller who gives up leaves that line behind, and may have taken away its beginning; the
next call reads what is left of the oldest line that is owed.
-/

set_option autoImplicit false

namespace Rehearsal.Session

open Wire (Request Response)

variable {α : Type}

/-! ## Lines that are owed -/

/-- Bytes whose only end of a line is at their end. -/
def IsLine (bytes : Bytes) : Prop :=
  ∃ front, lineEnd ∉ front ∧ bytes = front ++ [lineEnd]

/-- An agent that never ends and answers every request by one line, at any time. -/
def AnswersEachRequest (agency : Agency α) : Prop :=
  ∀ request agent, IsLine (bytesOf (reactionTo agency request agent).output) ∧
    (reactionTo agency request agent).departure = none

/-- A connection on which the lines `owed` have still to be read, but for some bytes at the
beginning of the first one. -/
structure Owes (link : Link α) (lost : Bytes) (owed : List Bytes) : Prop where
  orderly : link.Orderly
  reading : link.departure = none
  lines : ∀ line ∈ owed, IsLine line
  open' : lineEnd ∉ lost
  bytes : lost ++ bytesOf link.pending = owed.flatten

/-- Losing bytes without an end of a line loses them from the first line. -/
theorem split_first_line {lost pending line : Bytes} {rest : Bytes} (isLine : IsLine line)
    (noEnd : lineEnd ∉ lost) (bytes : lost ++ pending = line ++ rest) :
    ∃ kept, line = lost ++ kept ∧ cutLine pending = some (kept, rest) := by
  obtain ⟨front, frontNoEnd, rfl⟩ := isLine
  rw [List.append_assoc, List.append_eq_append_iff] at bytes
  rcases bytes with ⟨middle, rfl, same⟩ | ⟨middle, rfl, same⟩
  · rw [List.mem_append, not_or] at frontNoEnd
    refine ⟨middle ++ [lineEnd], by simp, ?_⟩
    rw [same]
    exact cutLine_of_line frontNoEnd.2 rest
  · -- The lost bytes cannot go beyond the first end of a line.
    cases middle with
    | nil =>
        refine ⟨[lineEnd], by simp, ?_⟩
        rw [← List.nil_append pending, ← same]
        rfl
    | cons byte middle =>
        obtain ⟨rfl, -⟩ := List.cons.inj same
        exact absurd (List.mem_append_right _ List.mem_cons_self) noEnd

theorem mem_arrived_mono {byte : UInt8} {early late : Nat} {pieces : List (Nat × Bytes)}
    (order : early ≤ late) (come : byte ∈ arrived early pieces) : byte ∈ arrived late pieces := by
  obtain ⟨piece, member, inside⟩ := List.mem_flatMap.mp come
  obtain ⟨listed, soon⟩ := List.mem_filter.mp member
  have later : decide (piece.1 ≤ late) = true :=
    decide_eq_true (Nat.le_trans (of_decide_eq_true soon) order)
  exact List.mem_flatMap.mpr ⟨piece, List.mem_filter.mpr ⟨listed, later⟩, inside⟩

/-! ## What changes the backlog -/

section

variable {agency : Agency α} {link : Link α} {lost : Bytes} {owed : List Bytes}

/-- A request adds its own line to what is owed. -/
theorem Owes.give (owes : Owes link lost owed) (answers : AnswersEachRequest agency)
    (request : Request) (now : Nat) :
    Owes (give agency request.line now link) lost
      (owed ++ [bytesOf (reactionTo agency request link.agent).output]) := by
  obtain ⟨isLine, goesOn⟩ := answers request link.agent
  have reacts := reaction_of_reading owes.reading agency request
  refine ⟨orderly_give agency request.line now owes.orderly, ?_, ?_, owes.open', ?_⟩
  · exact (congrArg Reaction.departure reacts).trans goesOn
  · intro line member
    rcases List.mem_append.mp member with old | new
    · exact owes.lines line old
    · exact List.mem_singleton.mp new ▸ isLine
  · rw [bytesOf_give, reacts, ← List.append_assoc, owes.bytes, List.flatten_append,
      List.flatten_singleton]

/-- A caller who gives up before a line is complete takes away no line. -/
theorem Owes.cutOff (owes : Owes link lost owed) {time : Nat}
    (noLine : lineEnd ∉ arrived time link.pending) :
    Owes (cutOff time link) (lost ++ arrived time link.pending) owed := by
  refine ⟨orderly_cutOff time owes.orderly, owes.reading, owes.lines, ?_, ?_⟩
  · rw [List.mem_append, not_or]
    exact ⟨owes.open', noLine⟩
  · rw [← owes.bytes, List.append_assoc]
    exact congrArg (lost ++ ·) (arrived_append_later owes.orderly.ordered time)

/-- Reading a line takes away the first one that is owed. -/
theorem Owes.taken {line : Bytes} {rest : List Bytes} {time : Nat} {left : List (Nat × Bytes)}
    (owes : Owes link lost (line :: rest))
    (taken : TakenFrom link.pending rest.flatten time left) :
    Owes { link with pending := left } [] rest :=
  ⟨orderly_left owes.orderly taken, owes.reading,
    fun line member => owes.lines line (List.mem_cons_of_mem _ member), List.not_mem_nil,
    taken.bytes⟩

end

/-! ## Exchanges with a backlog -/

/-- What becomes of an exchange: whoever gives up adds to the backlog, and else the answer is what
is left of the oldest line owed, or nothing in time. -/
structure Backlogged (agency : Agency α) (agent : α) (request : Request) (lost : Bytes)
    (owed : List Bytes) (reply : Reply (Session α) Response) : Prop where
  abandoned : ∀ time, time < reply.delay →
    ∃ after more, (reply.abandoned time).link = some after ∧
      after.agent = (reactionTo agency request agent).after ∧
      Owes after more (owed ++ [bytesOf (reactionTo agency request agent).output])
  answer : (reply.answer = .error .timedOut ∧ reply.after.link = none) ∨
    ∃ kept rest,
      owed ++ [bytesOf (reactionTo agency request agent).output] = (lost ++ kept) :: rest ∧
      reply.answer = hear kept ∧
      (reply.after.link = none ∨
        ∃ after, reply.after.link = some after ∧
          after.agent = (reactionTo agency request agent).after ∧ Owes after [] rest)

/-- Whoever gives up before a line is complete leaves a connection on which as much is owed. -/
theorem owes_abandonedAfter {session : Session α} {link : Link α} {lost : Bytes}
    {owed : List Bytes} {agent : α} (moves : link.agent = agent) (owes : Owes link lost owed)
    {now time : Nat} (noLine : lineEnd ∉ arrived (now + time) link.pending) :
    ∃ after more, (session.abandonedAfter now link time).link = some after ∧
      after.agent = agent ∧ Owes after more owed :=
  ⟨_, _, rfl, moves, owes.cutOff noLine⟩

/-- The answer to a request is what is left of the oldest line that is owed, the line of the request
itself included. -/
theorem exchange_of_owes {agency : Agency α} (answers : AnswersEachRequest agency)
    {session : Session α} {link : Link α} {lost : Bytes} {owed : List Bytes}
    (present : session.link = some link) (owes : Owes link lost owed) (request : Request)
    (now : Nat) :
    Backlogged agency link.agent request lost owed (session.exchange agency request now) := by
  have given := owes.give answers request now
  obtain ⟨line, rest, first⟩ : ∃ line rest,
      owed ++ [bytesOf (reactionTo agency request link.agent).output] = line :: rest := by
    cases owed with
    | nil => exact ⟨_, _, rfl⟩
    | cons line owed => exact ⟨_, _, rfl⟩
  have oldest := given
  rw [first] at oldest
  obtain ⟨kept, rfl, cut⟩ := split_first_line (oldest.lines line List.mem_cons_self) oldest.open'
    oldest.bytes
  have moves : (Session.give agency request.line now link).agent =
      (reactionTo agency request link.agent).after :=
    congrArg Reaction.after (reaction_of_reading owes.reading agency request)
  rw [exchange_of_linked present (not_gone_of_reading owes.reading now)]
  by_cases inTime : lineEnd ∈ arrived (now + (session.noted request).readLimit)
      (give agency request.line now link).pending
  · obtain ⟨time, left, taken, -, awaited⟩ := awaitAnswer_of_line given.orderly cut inTime
    rw [awaited]
    refine ⟨?_, .inr ⟨kept, rest, first, ?_⟩⟩
    · intro limit early
      refine owes_abandonedAfter moves given fun come => ?_
      have complete := (taken.complete given.orderly.ordered _).mp come
      simp only at early
      omega
    · cases text : Text.Utf8.decode kept with
      | error fault =>
          rw [readAnswer_of_fault text]
          exact ⟨by simp only [hear, text], .inl rfl⟩
      | ok line =>
          rw [readAnswer_of_text text]
          exact ⟨rfl, .inr ⟨_, rfl, moves, oldest.taken taken⟩⟩
  · have overdue : Overdue now (session.noted request).readLimit
        (give agency request.line now link) :=
      ⟨inTime, fun leaves => absurd given.reading leaves⟩
    rw [awaitAnswer_of_overdue given.orderly overdue]
    refine ⟨?_, .inl ⟨rfl, rfl⟩⟩
    intro limit early
    refine owes_abandonedAfter moves given fun come => inTime ?_
    exact mem_arrived_mono (Nat.add_le_add_left (Nat.le_of_lt early) now) come

end Rehearsal.Session
