/-
Guesses at a code that has been sent. Every wrong answer that a verification takes uses
up an attempt, so the limit on attempts is a limit on guesses, whatever other commands
come between. A completion compares its answer before it comes to a verification; what it
refuses then is no attempt, and the limit does not apply to it.
-/

import Enrolment.Proofs.Attempts

namespace Enrolment

inductive Snapshot.JustSent : Snapshot → Prop
  | issued {policy : Policy} {occasion : Occasion} {id : RegistrationId} {email : String}
      {registration : Registration}
      (succeeded : Registration.issue policy occasion id email = .ok registration) :
      JustSent registration.toSnapshot
  | resent {exchange : Exchange} (renews : exchange.renews = true) : JustSent exchange.after

def RegistrationError.refusesCode : RegistrationError → Bool
  | .codeMismatch _ | .tooManyAttempts _ | .invalidCode => true
  | _ => false

theorem RegistrationError.refusesCode_of_isMiss {error : RegistrationError}
    (miss : error.isMiss = true) : error.refusesCode = true := by
  cases error with
  | codeMismatch | tooManyAttempts => rfl
  | _ => cases miss

namespace Exchange

/-- A candidate other than the active code was refused for that. -/
def refusesGuess (exchange : Exchange) : Bool :=
  exchange.operation.command.candidate?.any (!exchange.before.code.isMatch ·) &&
    exchange.transition.error?.any RegistrationError.refusesCode

/-- A completion while the code still waits for its answer. It compares the code first, and
makes no attempt when the code is another. -/
def comparesFirst (exchange : Exchange) : Bool :=
  match exchange.operation.command with
  | .complete _ _ _ => exchange.before.status = .pending
  | .verify _ | .check _ | .resend => false

def countsGuess (exchange : Exchange) : Bool :=
  exchange.refusesGuess && !exchange.comparesFirst

/-- The answer is taken for the code, and lets the registration go on. -/
def Admits (exchange : Exchange) : Prop :=
  exchange.before.status ≠ .verified ∧ exchange.after.status = .verified ∨
    exchange.before.status = .pending ∧ exchange.after.status = .completed

variable {exchange : Exchange}

theorem countsGuess_of_success (succeeded : exchange.transition.error? = none) :
    exchange.countsGuess = false := by
  simp [countsGuess, refusesGuess, succeeded]

theorem countsGuess_of_other_failure {error : RegistrationError}
    (failed : exchange.transition.error? = some error) (other : error.refusesCode = false) :
    exchange.countsGuess = false := by
  simp [countsGuess, refusesGuess, failed, other]

theorem countsGuess_of_miss (misses : exchange.misses = true) : exchange.countsGuess = true := by
  obtain ⟨candidate, command, pending, inTime, different⟩ := exchange.misses_iff.mp misses
  cases failed : exchange.transition.error? with
  | none =>
      rw [misses_of_success failed] at misses
      cases misses
  | some error =>
      have miss : error.isMiss = true := by
        simpa [Exchange.misses, command, Command.isVerification, failed] using misses
      simp [countsGuess, refusesGuess, comparesFirst, command, Command.candidate?, different,
        failed, RegistrationError.refusesCode_of_isMiss miss]

/-- While a code waits for its answer the guesses that count are the misses. -/
theorem countsGuess_eq_misses (pending : exchange.before.status = .pending) :
    exchange.countsGuess = exchange.misses := by
  cases exchange.ending with
  | refused cause transition failed =>
      rw [misses_of_other_failure failed cause.not_miss]
      cases cause with
      | checkedWrong command verified =>
          have status : Status.pending = .verified := pending.symm.trans verified
          cases status
      | wrongCode command different => simp [countsGuess, comparesFirst, command, pending]
      | _ => exact countsGuess_of_other_failure failed rfl
  | passed idle transition succeeded =>
      rw [countsGuess_of_success succeeded, misses_of_success succeeded]
  | changed change transition reported =>
      cases change with
      | lapsed => rw [countsGuess_of_other_failure reported rfl, misses_of_other_failure reported rfl]
      | missed command pending inTime different | exhausted command pending inTime different =>
          have misses := exchange.misses_iff.mpr ⟨_, command, pending, inTime, different⟩
          rw [countsGuess_of_miss misses, misses]
      | verified | resent | completed | completedAtOnce =>
          rw [countsGuess_of_success reported, misses_of_success reported]

/-- Without a new code a registration does not start to wait again. -/
theorem pending_before (keepsCode : exchange.renews = false)
    (pending : exchange.after.status = .pending) : exchange.before.status = .pending := by
  cases exchange.ending with
  | refused cause transition failed after =>
      rw [← after]
      exact pending
  | passed idle transition succeeded after =>
      rw [← after]
      exact pending
  | changed change transition reported after =>
      rw [after] at pending
      cases change with
      | missed command waiting => exact waiting
      | lapsed | exhausted | verified | completed | completedAtOnce => cases pending
      | resent command =>
          rw [renews_iff.mpr ⟨command, reported⟩] at keepsCode
          cases keepsCode

theorem Admits.pending (admits : exchange.Admits) : exchange.before.status = .pending := by
  rcases admits with ⟨notVerified, verified⟩ | ⟨pending, completed⟩
  · cases exchange.ending with
    | refused cause transition failed after =>
        rw [after] at verified
        exact absurd verified notVerified
    | passed idle transition succeeded after =>
        rw [after] at verified
        exact absurd verified notVerified
    | changed change transition reported after =>
        rw [after] at verified
        cases change with
        | missed command pending => exact pending
        | verified command pending => exact pending
        | lapsed | exhausted | resent | completed | completedAtOnce => cases verified
  · exact pending

end Exchange

theorem Snapshot.JustSent.noAttempts {snapshot : Snapshot} (sent : snapshot.JustSent) :
    snapshot.attempts = 0 := by
  cases sent with
  | issued succeeded =>
      obtain ⟨_, _, _, _, _, _, _, _, rfl⟩ := Registration.issue_eq_ok succeeded
      rfl
  | @resent exchange renews =>
      obtain ⟨command, succeeded⟩ := Exchange.renews_iff.mp renews
      cases exchange.ending with
      | refused cause transition failed => rw [failed] at succeeded; cases succeeded
      | passed idle =>
          cases idle with
          | checked other | completedBefore other => rw [command] at other; cases other
      | changed change transition reported after =>
          rw [after]
          cases change with
          | resent => rfl
          | lapsed => rw [reported] at succeeded; cases succeeded
          | missed other | exhausted other | verified other | completed other
          | completedAtOnce other => rw [command] at other; cases other

/-! ### Sessions about one code -/

namespace Session

variable {allowed : Operation → Prop} {policy : Policy} {start snapshot : Snapshot}
  {exchanges : List Exchange}

theorem keepsCode_of_mem {exchange : Exchange}
    (session : Session allowed start exchanges snapshot)
    (noResend : ∀ operation, allowed operation → operation.command ≠ .resend)
    (member : exchange ∈ exchanges) : exchange.renews = false := by
  obtain ⟨earlier, later, rfl⟩ := List.append_of_mem member
  exact Exchange.renews_of_ne_resend rfl (noResend _ session.split.2)

theorem missesSinceRenewal_eq (session : Session allowed start exchanges snapshot)
    (noResend : ∀ operation, allowed operation → operation.command ≠ .resend) :
    missesSinceRenewal exchanges = exchanges.countP Exchange.misses := by
  have all : sinceRenewal exchanges = exchanges := by
    unfold sinceRenewal
    rw [List.rtakeWhile_eq_self_iff]
    intro exchange member
    simp [session.keepsCode_of_mem noResend member]
  rw [missesSinceRenewal, all]

theorem guesses_eq_misses (session : Session allowed start exchanges snapshot)
    (noResend : ∀ operation, allowed operation → operation.command ≠ .resend)
    (pending : snapshot.status = .pending) :
    exchanges.countP Exchange.countsGuess = exchanges.countP Exchange.misses := by
  induction session with
  | start => rfl
  | @next exchanges snapshot earlier operation permitted ih =>
      have keepsCode : (⟨snapshot, operation⟩ : Exchange).renews = false :=
        Exchange.renews_of_ne_resend rfl (noResend operation permitted)
      have pendingBefore : snapshot.status = .pending := Exchange.pending_before keepsCode pending
      rw [List.countP_append, List.countP_append, ih pendingBefore, List.countP_singleton,
        List.countP_singleton, Exchange.countsGuess_eq_misses pendingBefore]

/-- When the limit is reached no answer lets the registration go on, until there is a new
code. -/
theorem guesses_limited (usable : policy.validate = .ok ()) (sent : start.JustSent)
    {earlier later : List Exchange} {exchange : Exchange}
    (session : Session
      (fun operation => operation.policy = policy ∧ operation.command ≠ .resend)
      start (earlier ++ exchange :: later) snapshot)
    (spent : policy.maxAttempts.toNat ≤ earlier.countP Exchange.countsGuess) :
    ¬ exchange.Admits := by
  intro admits
  have before := session.split.1
  have tally : Tally policy earlier exchange.before :=
    (before.mono fun _ permitted => permitted.1).tally usable sent.noAttempts
  have attemptsLeft : exchange.before.attempts < policy.maxAttempts := by
    apply tally.below
    rw [admits.pending]
    exact Status.noConfusion
  have counted : earlier.countP Exchange.countsGuess = exchange.before.attempts.toNat := by
    rw [before.guesses_eq_misses (fun _ permitted => permitted.2) admits.pending,
      ← before.missesSinceRenewal_eq (fun _ permitted => permitted.2), ← tally.counted]
  have less := UInt8.lt_iff_toNat_lt.mp attemptsLeft
  omega

end Session

/-! ### Samples -/

theorem Registration.justSent_unanswered : unanswered.toSnapshot.JustSent := by
  have succeeded : issue .brief (.uniform .epoch 0) ⟨.nil⟩ "a@b" = .ok unanswered := rfl
  exact .issued succeeded

def Snapshot.afterTwo (command : Command) : Snapshot :=
  Registration.unanswered.toSnapshot.afterAll [.brief command, .brief command]

/-- A command given twice, and then the right answer. -/
theorem session_afterTwo {command : Command} (noResend : command ≠ .resend) :
    Session (fun operation => operation.policy = .brief ∧ operation.command ≠ .resend)
      Registration.unanswered.toSnapshot
      (converse Registration.unanswered.toSnapshot [.brief command, .brief command] ++
        [⟨.afterTwo command, .brief (.verify "A")⟩])
      (⟨.afterTwo command, .brief (.verify "A")⟩ : Exchange).after := by
  refine .next (Session.start.append_converse [.brief command, .brief command] ?_)
    (.brief (.verify "A")) ⟨rfl, Command.noConfusion⟩
  simp [Operation.brief, noResend]

theorem guesses_limited_after_two :
    Policy.brief.validate = .ok () ∧ Registration.unanswered.toSnapshot.JustSent ∧
      Policy.brief.maxAttempts.toNat ≤
        (converse Registration.unanswered.toSnapshot
          [.brief (.verify "B"), .brief (.verify "B")]).countP Exchange.countsGuess ∧
      ¬ (⟨.afterTwo (.verify "B"), .brief (.verify "A")⟩ : Exchange).Admits := by
  refine ⟨rfl, Registration.justSent_unanswered, by decide, ?_⟩
  have session := session_afterTwo (show Command.verify "B" ≠ .resend from Command.noConfusion)
  exact Session.guesses_limited rfl Registration.justSent_unanswered session (by decide)

/-- Refused completions do not end a code, as many as there may be of them. -/
theorem guesses_unlimited_in_completions :
    ∃ (policy : Policy) (start snapshot : Snapshot) (earlier later : List Exchange)
      (exchange : Exchange), policy.validate = .ok () ∧ start.JustSent ∧
      Session (fun operation => operation.policy = policy ∧ operation.command ≠ .resend)
        start (earlier ++ exchange :: later) snapshot ∧
      policy.maxAttempts.toNat ≤ earlier.countP Exchange.refusesGuess ∧ exchange.Admits := by
  have noResend : Command.complete "B" .clerk ⟨""⟩ ≠ .resend := Command.noConfusion
  refine ⟨.brief, Registration.unanswered.toSnapshot, _, _, [], _, rfl,
    Registration.justSent_unanswered, session_afterTwo noResend, by decide, ?_⟩
  exact Or.inl ⟨by decide, rfl⟩

end Enrolment
