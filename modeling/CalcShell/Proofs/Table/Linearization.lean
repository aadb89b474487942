import CalcShell.Proofs.Table.Direct

/-!
# The order of a shared table

However the turns of clients and table are interleaved, the answers are those of one
table that is used directly and performs the calls in the order in which they were
answered, which is the order of the mailbox.  Each client gets its answers in the
order of its letters, none is lost and none comes twice.  The first letter that asks
the table to stop ends this: from then on every call fails.

The invariant has a part for the table, `SharedTable.Follows`, and one for each
client, `Client.Accounts`; every move keeps both.
-/

namespace CalcShell

/-! ## The clients -/

/-- The letter in the mailbox that a client waits for. -/
def Status.written : Status → List Letter
  | .waiting letter => [letter]
  | .idle | .replied .. => []

/-- What has come of a letter and has not been fetched. -/
def Status.unread : Status → List (Letter × Except Fault Answer)
  | .replied letter reply => [(letter, letter.answer <$> reply)]
  | .idle | .waiting _ => []

namespace Client

variable {program rest letters : List Letter} {letter : Letter}
  {history answers : List (Letter × Except Fault Answer)} {result : Except Fault Answer}

/-- The letters of a program are those that have been answered, then the one in the mailbox, then
those that are still to be written; and the answers are those that have been fetched and the one
that is there to be fetched. -/
structure Accounts (client : Client) (program letters : List Letter)
    (answers : List (Letter × Except Fault Answer)) : Prop where
  program : program = answers.map Prod.fst ++ (letters ++ client.plan)
  answers : answers = client.history ++ client.status.unread
  letters : letters = client.status.written

theorem Accounts.post
    (accounts : Accounts ⟨letter :: rest, .idle, history⟩ program letters answers) :
    Accounts ⟨rest, .waiting letter, history⟩ program (letters ++ [letter]) answers where
  program := by simpa using accounts.program
  answers := accounts.answers
  letters := by simp [accounts.letters, Status.written]

theorem Accounts.refuse
    (accounts : Accounts ⟨letter :: rest, .idle, history⟩ program letters answers) :
    Accounts ⟨rest, .idle, history ++ [(letter, result)]⟩ program letters
      (answers ++ [(letter, result)]) where
  program := by
    have nothing : letters = [] := accounts.letters
    simpa [nothing] using accounts.program
  answers := by simp [accounts.answers, Status.unread]
  letters := accounts.letters

theorem Accounts.serve {client : Client} (reply : Except Fault letter.Reply)
    (accounts : client.Accounts program (letter :: letters) answers) :
    Accounts ⟨client.plan, .replied letter reply, client.history⟩ program letters
      (answers ++ [(letter, letter.answer <$> reply)]) := by
  obtain ⟨plan, status, history⟩ := client
  obtain ⟨inOrder, returned, written⟩ := accounts
  cases status with
  | idle | replied => cases written
  | waiting awaited =>
      obtain ⟨rfl, rfl⟩ := List.cons.inj written
      refine ⟨?_, ?_, rfl⟩
      · simpa using inOrder
      · simp [returned, Status.unread]

theorem Accounts.receive {reply : Except Fault letter.Reply}
    (accounts : Accounts ⟨rest, .replied letter reply, history⟩ program letters answers) :
    Accounts ⟨rest, .idle, history ++ [(letter, letter.answer <$> reply)]⟩ program letters
      answers where
  program := accounts.program
  answers := by simp [accounts.answers, Status.unread]
  letters := accounts.letters

end Client

/-- A letter that has not been served asked for an end that had come, or its call has failed. -/
theorem Letter.stop_or_call_of_unserved {letter : Letter} {result : Except Fault Answer}
    (unserved : result = letter.unserved) :
    (letter = .stop ∧ result = .ok .nothing) ∨
      ∃ asked fault, letter = .call asked ∧ result = .error fault ∧
        fault.category = .deadActor := by
  cases letter with
  | stop => exact Or.inl ⟨rfl, unserved⟩
  | call asked => exact Or.inr ⟨asked, _, rfl, unserved, rfl⟩

/-! ## The system -/

namespace System

variable {identity : Type} [DecidableEq identity]

/-- The letters of one client among those in a mailbox. -/
def lettersOf (sender : identity) (mailbox : List (identity × Letter)) : List Letter :=
  (mailbox.filter fun item => item.1 = sender).map Prod.snd

/-- The answers of a journal that are for one client. -/
def answersOf (sender : identity) (journal : List (Entry identity)) :
    List (Letter × Except Fault Answer) :=
  (journal.filter fun entry => entry.sender = sender).map fun entry =>
    (entry.letter, entry.result)

/-- The letters that a journal tells of and that have been in the mailbox. -/
def deliveries (journal : List (Entry identity)) : List (identity × Letter) :=
  (journal.filter Entry.delivered).map fun entry => (entry.sender, entry.letter)

/-- The system is in the order of its mailbox: what has arrived has been answered in the order of
its arrival or is still in the mailbox, the answers are those of the table used directly, and
every client is answered in the order of its program. -/
structure Linearized (table : SymbolTable) (programs : identity → List Letter)
    (system : System identity) : Prop where
  arrivals : system.posted = deliveries system.journal ++ system.mailbox
  table : system.shared.Follows table (system.journal.map Entry.letter)
    (system.journal.map Entry.result)
  clients : ∀ sender, (system.clients sender).Accounts (programs sender)
    (lettersOf sender system.mailbox) (answersOf sender system.journal)

variable {table : SymbolTable} {programs : identity → List Letter} {system : System identity}

theorem linearized_start (table : SymbolTable) (programs : identity → List Letter) :
    (start table programs).Linearized table programs where
  arrivals := rfl
  table := SharedTable.follows_start table
  clients := fun _ => ⟨rfl, rfl, rfl⟩

theorem Linearized.post (linearized : system.Linearized table programs) (sender : identity) :
    (system.post sender).Linearized table programs := by
  have accounts := linearized.clients sender
  unfold System.post
  split
  · next letter rest history isClient =>
      rw [isClient] at accounts
      split
      · next running =>
          refine ⟨?_, linearized.table, ?_⟩
          · simp [withClient, linearized.arrivals]
          · intro other
            by_cases same : other = sender
            · subst same
              simpa [withClient, lettersOf] using accounts.post
            · simpa [withClient, lettersOf, same, Ne.symm same] using linearized.clients other
      · next stopped =>
          refine ⟨?_, ?_, ?_⟩
          · simpa [deliveries, withClient] using linearized.arrivals
          · simpa [withClient] using linearized.table.refuse (by simpa using stopped) letter
          · intro other
            by_cases same : other = sender
            · subst same
              simpa [withClient, answersOf] using accounts.refuse
            · simpa [withClient, answersOf, same, Ne.symm same] using linearized.clients other
  · exact linearized

theorem Linearized.serve (linearized : system.Linearized table programs) :
    system.serve.Linearized table programs := by
  unfold System.serve
  split
  · exact linearized
  · next sender letter rest isMailbox =>
      have arrivals := linearized.arrivals
      have accounts := linearized.clients
      rw [isMailbox] at arrivals accounts
      refine ⟨?_, ?_, ?_⟩
      · simpa [deliveries, withClient] using arrivals
      · simpa [withClient] using linearized.table.accept letter
      · intro other
        by_cases same : other = sender
        · subst same
          have ofClient := accounts other
          simp only [lettersOf, List.filter_cons, decide_true, if_true, List.map_cons] at ofClient
          simpa [withClient, answersOf, lettersOf] using
            ofClient.serve (system.shared.accept letter).1
        · simpa [withClient, answersOf, lettersOf, same, Ne.symm same] using accounts other

theorem Linearized.receive (linearized : system.Linearized table programs) (sender : identity) :
    (system.receive sender).Linearized table programs := by
  have accounts := linearized.clients sender
  unfold System.receive
  split
  · next plan letter reply history isClient =>
      rw [isClient] at accounts
      refine ⟨linearized.arrivals, linearized.table, ?_⟩
      intro other
      by_cases same : other = sender
      · subst same
        simpa [withClient] using accounts.receive
      · simpa [withClient, same] using linearized.clients other
  · exact linearized

theorem Linearized.step (linearized : system.Linearized table programs) (move : Move identity) :
    (system.step move).Linearized table programs := by
  cases move with
  | post sender => exact linearized.post sender
  | serve => exact linearized.serve
  | receive sender => exact linearized.receive sender

theorem Linearized.run (linearized : system.Linearized table programs)
    (moves : List (Move identity)) : (system.run moves).Linearized table programs := by
  induction moves generalizing system with
  | nil => exact linearized
  | cons move rest inductionHypothesis => exact inductionHypothesis (linearized.step move)

/-! ## Failures and the end -/

/-- A move answers nothing, sends a letter back from a stopped table or has the first letter of
the mailbox served. -/
theorem step_cases (system : System identity) (move : Move identity) :
    ((system.step move).shared = system.shared ∧
        (system.step move).journal = system.journal) ∨
      (∃ sender letter, system.shared.alive = false ∧
        (system.step move).shared = system.shared ∧
        (system.step move).journal =
          system.journal ++ [⟨sender, letter, letter.unserved, false⟩]) ∨
      ∃ sender letter, (system.step move).shared = (system.shared.accept letter).2 ∧
        (system.step move).journal = system.journal ++
          [⟨sender, letter, letter.answer <$> (system.shared.accept letter).1, true⟩] := by
  cases move with
  | post sender =>
      rw [step, System.post]
      split
      · next letter rest history isClient =>
          split
          · exact Or.inl ⟨rfl, rfl⟩
          · next stopped =>
              exact Or.inr (Or.inl ⟨sender, letter, by simpa using stopped, rfl, rfl⟩)
      · exact Or.inl ⟨rfl, rfl⟩
  | serve =>
      rw [step, System.serve]
      split
      · exact Or.inl ⟨rfl, rfl⟩
      · next sender letter rest isMailbox => exact Or.inr (Or.inr ⟨sender, letter, rfl, rfl⟩)
  | receive sender =>
      rw [step, System.receive]
      split <;> exact Or.inl ⟨rfl, rfl⟩

theorem shared_step_of_error {move : Move identity} {entry : Entry identity} {fault : Fault}
    (answered : (system.step move).journal = system.journal ++ [entry])
    (failed : entry.result = .error fault) : (system.step move).shared = system.shared := by
  rcases system.step_cases move with
    ⟨same, _⟩ | ⟨sender, letter, _, same, _⟩ | ⟨sender, letter, served, journal⟩
  · exact same
  · exact same
  · rw [journal] at answered
    obtain rfl := List.singleton_inj.mp (List.append_cancel_left answered)
    rw [served]
    exact SharedTable.accept_of_error failed

/-- From a stopped table come only letters that have not been served. -/
theorem step_of_stopped (stopped : system.shared.alive = false) (move : Move identity) :
    (system.step move).shared = system.shared ∧
      ∃ entries, (system.step move).journal = system.journal ++ entries ∧
        ∀ entry ∈ entries, entry.result = entry.letter.unserved := by
  rcases system.step_cases move with
    ⟨same, journal⟩ | ⟨sender, letter, _, same, journal⟩ | ⟨sender, letter, served, journal⟩
  · exact ⟨same, [], by rw [journal, List.append_nil], List.forall_mem_nil _⟩
  · refine ⟨same, _, journal, ?_⟩
    intro entry member
    obtain rfl := List.mem_singleton.mp member
    rfl
  · obtain ⟨sameResult, sameTable⟩ := SharedTable.accept_of_stopped stopped letter
    refine ⟨served.trans sameTable, _, journal, ?_⟩
    intro entry member
    obtain rfl := List.mem_singleton.mp member
    exact sameResult

theorem run_of_stopped (stopped : system.shared.alive = false) (moves : List (Move identity)) :
    (system.run moves).shared = system.shared ∧
      ∃ entries, (system.run moves).journal = system.journal ++ entries ∧
        ∀ entry ∈ entries, entry.result = entry.letter.unserved := by
  induction moves generalizing system with
  | nil => exact ⟨rfl, [], (List.append_nil _).symm, List.forall_mem_nil _⟩
  | cons move rest inductionHypothesis =>
      obtain ⟨same, first, journal, unserved⟩ := step_of_stopped stopped move
      obtain ⟨laterSame, later, laterJournal, laterUnserved⟩ :=
        inductionHypothesis (by rw [same]; exact stopped)
      refine ⟨laterSame.trans same, first ++ later, ?_, ?_⟩
      · rw [← List.append_assoc, ← journal]
        exact laterJournal
      · intro entry member
        exact (List.mem_append.mp member).elim (unserved entry) (laterUnserved entry)

theorem clients_post_of_stopped {sender : identity} {letter : Letter} {rest : List Letter}
    (stopped : system.shared.alive = false) (idle : (system.clients sender).status = .idle)
    (next : (system.clients sender).plan = letter :: rest) :
    ((system.step (.post sender)).clients sender).history =
      (system.clients sender).history ++ [(letter, letter.unserved)] := by
  cases isClient : system.clients sender with
  | mk plan status history =>
      rw [isClient] at idle next
      obtain rfl : status = .idle := idle
      obtain rfl : plan = letter :: rest := next
      simp [step, System.post, isClient, stopped, withClient]

theorem Linearized.alive_of_stopped (linearized : system.Linearized table programs)
    (isStopped : Letter.stop ∈ system.journal.map Entry.letter) : system.shared.alive = false := by
  cases running : system.shared.alive with
  | false => rfl
  | true => exact absurd isStopped (linearized.table.alive.mp running)

/-! ## Clients that finish -/

theorem run_append (system : System identity) (moves more : List (Move identity)) :
    system.run (moves ++ more) = (system.run moves).run more :=
  List.foldl_append

/-- The table can always get through its mailbox. -/
theorem exists_run_of_mailbox (system : System identity) :
    ∃ moves, (system.run moves).mailbox = [] ∧
      ∀ sender, ((system.run moves).clients sender).plan = (system.clients sender).plan := by
  cases isMailbox : system.mailbox with
  | nil => exact ⟨[], isMailbox, fun _ => rfl⟩
  | cons item rest =>
      have served : (system.step .serve).mailbox = rest := by
        simp only [step, System.serve, isMailbox]
      have samePlan : ∀ other, ((system.step .serve).clients other).plan =
          (system.clients other).plan := by
        intro other
        simp only [step, System.serve, isMailbox, withClient]
        split
        · next same => rw [same]
        · rfl
      have shorter : (system.step .serve).mailbox.length < system.mailbox.length := by
        rw [served, isMailbox]
        exact Nat.lt_succ_self _
      obtain ⟨moves, empty, plans⟩ := exists_run_of_mailbox (system.step .serve)
      exact ⟨.serve :: moves, empty, fun other => (plans other).trans (samePlan other)⟩
termination_by system.mailbox.length

theorem Linearized.exists_run_idle (linearized : system.Linearized table programs)
    (sender : identity) :
    ∃ moves, ((system.run moves).clients sender).status = .idle ∧
      ((system.run moves).clients sender).plan = (system.clients sender).plan := by
  obtain ⟨moves, empty, plans⟩ := system.exists_run_of_mailbox
  have written := ((linearized.run moves).clients sender).letters
  rw [empty] at written
  cases isClient : (system.run moves).clients sender with
  | mk plan status history =>
      have samePlan := plans sender
      rw [isClient] at written samePlan
      cases status with
      | idle => exact ⟨moves, by rw [isClient], by rw [isClient]; exact samePlan⟩
      | waiting letter => cases written
      | replied letter reply =>
          have received : (system.run (moves ++ [.receive sender])).clients sender =
              ⟨plan, .idle, history ++ [(letter, letter.answer <$> reply)]⟩ := by
            rw [run_append]
            show ((system.run moves).receive sender).clients sender = _
            simp [System.receive, isClient, withClient]
          exact ⟨moves ++ [.receive sender], by rw [received], by rw [received]; exact samePlan⟩

theorem plan_step_post {sender : identity} {letter : Letter} {rest : List Letter}
    (idle : (system.clients sender).status = .idle)
    (next : (system.clients sender).plan = letter :: rest) :
    ((system.step (.post sender)).clients sender).plan = rest := by
  cases isClient : system.clients sender with
  | mk plan status history =>
      rw [isClient] at idle next
      obtain rfl : status = .idle := idle
      obtain rfl : plan = letter :: rest := next
      simp only [step, System.post, isClient]
      split <;> simp [withClient]

/-- Whatever has happened, a client can still get an answer to each letter of its program. -/
theorem Linearized.exists_run_finished (linearized : system.Linearized table programs)
    (sender : identity) :
    ∃ moves, ((system.run moves).clients sender).history.map Prod.fst = programs sender := by
  -- The letters that are still to be written become fewer; before each one the client waits
  -- until the mailbox has been worked off.
  induction left : (system.clients sender).plan generalizing system with
  | nil =>
      obtain ⟨moves, idle, samePlan⟩ := linearized.exists_run_idle sender
      have accounts := (linearized.run moves).clients sender
      refine ⟨moves, ?_⟩
      have letters := accounts.letters
      have answers := accounts.answers
      rw [idle] at letters answers
      rw [accounts.program, samePlan, left, letters, answers]
      simp [Status.written, Status.unread]
  | cons letter rest inductionHypothesis =>
      obtain ⟨moves, idle, samePlan⟩ := linearized.exists_run_idle sender
      obtain ⟨more, finished⟩ := inductionHypothesis ((linearized.run moves).step (.post sender))
        (plan_step_post idle (samePlan.trans left))
      refine ⟨moves ++ .post sender :: more, ?_⟩
      rw [run_append]
      exact finished

/-- However the moves of the clients and the table are interleaved, answers and table are those of
a table that is used directly and performs the calls in the order of the mailbox, and every
client can still get through its program.  What fails changes nothing.  Once the table has been
stopped it stays so, and every call fails, the next one of a client at once. -/
theorem linearized_run (table : SymbolTable) (programs : identity → List Letter)
    (moves : List (Move identity)) :
    let system := (start table programs).run moves
    system.Linearized table programs ∧
      (∀ sender, ∃ later,
        ((system.run later).clients sender).history.map Prod.fst = programs sender) ∧
      (∀ move entry fault, (system.step move).journal = system.journal ++ [entry] →
        entry.result = .error fault → (system.step move).shared = system.shared) ∧
      (Letter.stop ∈ system.journal.map Entry.letter →
        system.shared.alive = false ∧
        (∀ later, (system.run later).shared = system.shared ∧
          ∃ entries, (system.run later).journal = system.journal ++ entries ∧
            ∀ entry ∈ entries,
              (entry.letter = .stop ∧ entry.result = .ok .nothing) ∨
                ∃ asked fault, entry.letter = .call asked ∧ entry.result = .error fault ∧
                  fault.category = .deadActor) ∧
        ∀ sender asked rest, (system.clients sender).status = .idle →
          (system.clients sender).plan = .call asked :: rest →
          ((system.step (.post sender)).clients sender).history =
            (system.clients sender).history ++ [(.call asked, .error .tableStopped)]) := by
  intro system
  have linearized : system.Linearized table programs :=
    (linearized_start table programs).run moves
  refine ⟨linearized, linearized.exists_run_finished,
    fun _ _ _ answered failed => shared_step_of_error answered failed, ?_⟩
  intro isStopped
  have stopped := linearized.alive_of_stopped isStopped
  refine ⟨stopped, ?_, ?_⟩
  · intro later
    obtain ⟨same, entries, journal, unserved⟩ := run_of_stopped stopped later
    exact ⟨same, entries, journal,
      fun entry member => Letter.stop_or_call_of_unserved (unserved entry member)⟩
  · intro sender asked rest idle next
    exact clients_post_of_stopped stopped idle next

example :
    let programs (first : Bool) : List Letter :=
      if first then [.call (.set (.text "a") (Value.integer 1).toHost), .call .names, .call .clear]
      else [.call .size, .stop]
    let moves : List (Move Bool) :=
      [.post false, .post true, .serve, .serve, .receive true, .post true, .receive false,
        .post false, .serve, .serve, .receive true, .post true]
    ((start .empty programs).run moves).journal.map Entry.result =
      [.ok (.size 0), .ok .nothing, .ok (.names ["a"]), .ok .nothing, .error .tableStopped] := by
  rfl

end System

end CalcShell
