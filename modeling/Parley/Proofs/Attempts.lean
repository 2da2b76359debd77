import Mathlib.Order.Bounds.Basic
import Parley.Proofs.Asides
import Parley.Proofs.Magnitudes

/-!
# Attempts

A node that asks a generator asks it until an attempt closes the matter: one that is answered, one
that does not come back, the last one that is allowed, or one that fails when the pause before the
next would outlast the time that there is. Between the attempts come pauses, each twice as long as
the one before. The visit sets a variable to the text of the reply, or tells of the failure with the
number of the attempts.
-/

namespace Parley

open Parley.Computation World

namespace Handler

/-- An attempt with an outcome closes the matter, by whether it is the last one that is allowed and
whether it would be too late for another one. -/
inductive Closes (outcome : Generation) (last late : Prop) : Prop where
  /-- The generator replied. -/
  | replied {value : Value} (same : outcome = .reply value)
  /-- It did not come back. -/
  | hung (same : outcome = .hang)
  /-- No further attempt is allowed. -/
  | last (last : last)
  /-- It failed, and there is no time for another attempt. -/
  | late {cause : Failure} (same : outcome = .failure cause) (late : late)

/-- The number of the attempt that decides how asking ends: the first that closes the matter. -/
def Decides (outcome : Nat → Generation) (attempts : Nat) (limit measure : ℚ) (k : Nat) : Prop :=
  IsLeast {attempt | 1 ≤ attempt ∧
    Closes (outcome attempt) (attempt = attempts) (limit ≤ measure * 2 ^ (attempt - 1))} k

/-- The second attempt decides if the first one fails and does not close the matter. -/
theorem decides_two {outcome : Nat → Generation} {attempts : Nat} {limit measure : ℚ}
    {cause : Failure} (fails : outcome 1 = .failure cause) (more : 1 ≠ attempts)
    (early : measure < limit) (closes : Closes (outcome 2) (2 = attempts) (limit ≤ measure * 2)) :
    Decides outcome attempts limit measure 2 := by
  refine ⟨⟨one_le_two, by simpa using closes⟩, ?_⟩
  rintro attempt ⟨positive, closed⟩
  by_contra sooner
  obtain rfl : attempt = 1 := by omega
  rw [fails] at closed
  rcases closed with ⟨⟨⟩⟩ | ⟨⟨⟩⟩ | last | ⟨-, late⟩
  · exact more last
  · exact absurd early (not_lt.mpr (by simpa using late))

/-- How asking ends with the attempt of a number: with the reply, or with a failure that tells the
number. -/
inductive Ends (node : String) (outcome : Generation) (attempt : Nat) :
    Except Failure Value → Prop where
  /-- The generator replied. -/
  | replied {value : Value} (same : outcome = .reply value) : Ends node outcome attempt (.ok value)
  /-- It did not. -/
  | failed {told : Number} {cause : Option Failure} (silent : ∀ value, outcome ≠ .reply value)
    (number : told.rational? = some (attempt : ℚ)) :
    Ends node outcome attempt (.error (.capability node told cause))

/-- What knowledge adds to a call of a generator. -/
def backdrop (engine : Engine) (useKnowledge : Bool) (count : Nat) (execution : Execution String) :
    Value :=
  match useKnowledge, engine.capabilities.retrieve with
  | true, some retrieve =>
    match retrieve count execution.subject (execution.vars.read lastMessage).toText with
    | .ok found => if found.truthy then found else .text ""
    | .error _ => .text ""
  | _, _ => .text ""

/-- Asking for knowledge gives what it adds, and is no call of a generator. -/
theorem context_apply (engine : Engine) (useKnowledge : Bool) (session : Session) :
    ∃ world, context engine useKnowledge session =
        .ok (backdrop engine useKnowledge (session.world.retrievals + 1) session.execution)
          { session with world } ∧
      ∀ request, Asks request 0 [] session.world world := by
  have unasked : ∀ request, Asks request 0 [] session.world session.world := fun _ =>
    (refl_of World.Aside session.world).asks
  cases useKnowledge with
  | false => exact ⟨session.world, rfl, unasked⟩
  | true =>
    cases known : engine.capabilities.retrieve with
    | none =>
      refine ⟨session.world, ?_, unasked⟩
      simp only [context, backdrop, known]
      rfl
    | some retrieve =>
      let query := (session.execution.vars.read lastMessage).toText
      let queried := { session.world with retrievals := session.world.retrievals + 1 }.note
        (.queried session.execution.subject query)
      refine ⟨queried, ?_, fun request =>
        ⟨rfl, rfl, [.queried session.execution.subject query], rfl, rfl, rfl⟩⟩
      simp only [context, backdrop, known]
      change (match retrieve (session.world.retrievals + 1) session.execution.subject query with
        | .ok found => pure (if found.truthy then found else .text "")
        | .error _ => pure (.text "") : Run Value) { session with world := queried } = _
      cases retrieve (session.world.retrievals + 1) session.execution.subject query <;> rfl

/-- The text of a reply: nothing if it is null. -/
def replyText : Value → String
  | .null => ""
  | reply => reply.toText

/-- How the handler of a node that asked a generator ends with the attempt of a number: the variable
is set to the text of the reply, or the failure tells the number. -/
inductive Asked (node output : String) (outcome : Generation) (attempt : Nat) (context : Value)
    (execution : Execution String) :
    Except Failure (Action × Entries) → Execution String → Prop where
  /-- The generator replied. -/
  | replied {value : Value} (same : outcome = .reply value) :
    Asked node output outcome attempt context execution
      (.ok (.follow none,
        [(.text "output_variable", .text output), (.text "context_used", .bool context.truthy)]))
      { execution with vars := execution.vars.set output (.text (replyText value)) }
  /-- It did not. -/
  | failed {told : Number} {cause : Option Failure} (silent : ∀ value, outcome ≠ .reply value)
    (number : told.rational? = some (attempt : ℚ)) :
    Asked node output outcome attempt context execution (.error (.capability node told cause))
      execution

section Asking

variable {generator : Nat → String → Value → Generation} {prompt : String} {context : Value}

/-- The world after one more call of a generator. -/
def asked (prompt : String) (context : Value) (world : World) : World :=
  { world with generations := world.generations + 1 }.note (.generated prompt context)

/-- The world after a pause, if there is one. -/
def paused (delay : Number) (world : World) : World :=
  if Number.lt (.int 0) delay then world.note (.slept delay) else world

/-- A pause is not a call. -/
theorem paused_generations (delay : Number) (world : World) :
    (paused delay world).generations = world.generations := by
  unfold paused
  split <;> rfl

/-- A pause leaves generators as they are. -/
theorem paused_closed (delay : Number) (world : World) :
    (paused delay world).closed = world.closed := by
  unfold paused
  split <;> rfl

/-- One call is asked. -/
theorem asked_asks (world : World) :
    Asks (prompt, context) 1 [] world (asked prompt context world) :=
  ⟨rfl, rfl, [.generated prompt context], rfl, rfl, rfl⟩

/-- One pause is made if the delay is positive. -/
theorem paused_asks (delay : Number) (request : String × Value) (world : World) :
    Asks request 0 (if Number.lt (.int 0) delay then [delay] else []) world
      (paused delay world) := by
  unfold paused
  split
  · exact ⟨rfl, rfl, [.slept delay], rfl, rfl, rfl⟩
  · exact (refl_of World.Aside world).asks

/-- An attempt to ask a generator that can be asked is one call, and ends as the generator says. -/
theorem attempt_ask {session : Session} (unclosed : session.world.closed = false) :
    Run.attempt (ask generator prompt context) session =
      .ok (match generator (session.world.generations + 1) prompt context with
        | .reply value => .ok (some value)
        | .failure cause => .error cause
        | .hang => .ok none) { session with world := asked prompt context session.world } := by
  have able : ¬session.world.closed = true := Bool.eq_false_iff.mp unclosed
  have called : ask generator prompt context session =
      (match generator (session.world.generations + 1) prompt context with
        | .reply value => pure (some value)
        | .failure cause => throw cause
        | .hang => pure none : Run (Option Value))
          { session with world := asked prompt context session.world } := by
    rw [ask, bind_apply, get_apply]
    dsimp only
    rw [if_neg able]
    rfl
  rw [Run.attempt, called]
  cases generator (session.world.generations + 1) prompt context <;> rfl

/-- What is tried after an attempt goes on from what the attempt left. -/
theorem attempt_bind {α β : Type} {effect : Run α} {rest : Except Failure α → Run β}
    {session left : Session} {outcome : Except Failure α}
    (ended : Run.attempt effect session = .ok outcome left) :
    Run.attempt (Run.attempt effect >>= rest) session = Run.attempt (rest outcome) left := by
  rw [Run.attempt, bind_of_ok ended, Run.attempt]

variable {node : String} {attempts delay : Number} {timeout : Binary64} {left count : Nat}
  {last : Option Failure} {session : Session} (unclosed : session.world.closed = false)
include unclosed

/-- A reply ends the asking. -/
theorem retryFrom_replied {value : Value}
    (same : generator (session.world.generations + 1) prompt context = .reply value) :
    Run.attempt (retryFrom node attempts (some timeout) (ask generator prompt context) (left + 1)
      count delay last) session =
        .ok (.ok value) { session with world := asked prompt context session.world } := by
  rw [retryFrom, attempt_bind (attempt_ask unclosed), same]
  rfl

/-- A call that does not come back ends the asking. -/
theorem retryFrom_hung (same : generator (session.world.generations + 1) prompt context = .hang) :
    Run.attempt (retryFrom node attempts (some timeout) (ask generator prompt context) (left + 1)
      count delay last) session =
        .ok (.error (.capability node (.int count)
          (some (.tooSlow ("no result within " ++ Decimal.oneDecimal timeout ++ "s")))))
          { session with world := asked prompt context session.world } := by
  rw [retryFrom, attempt_bind (attempt_ask unclosed), same]
  rfl

variable {cause : Failure}
  (same : generator (session.world.generations + 1) prompt context = .failure cause)
include same

/-- A failure of the last attempt ends the asking. -/
theorem retryFrom_last :
    Run.attempt (retryFrom node attempts (some timeout) (ask generator prompt context) 1
      count delay last) session =
        .ok (.error (.capability node attempts (some cause)))
          { session with world := asked prompt context session.world } := by
  rw [retryFrom, attempt_bind (attempt_ask unclosed), same]
  rfl

/-- A failure ends the asking if the delay would outlast the timeout. -/
theorem retryFrom_late (more : left ≠ 0) (late : outlasts delay (some timeout) = .ok true) :
    Run.attempt (retryFrom node attempts (some timeout) (ask generator prompt context) (left + 1)
      count delay last) session =
        .ok (.error (.capability node (.int count) (some cause)))
          { session with world := asked prompt context session.world } := by
  rw [retryFrom, attempt_bind (attempt_ask unclosed), same]
  dsimp only
  rw [if_neg more, late]
  rfl

/-- After any other failure the generator is asked again, when the pause is over. -/
theorem retryFrom_again (more : left ≠ 0) (early : outlasts delay (some timeout) = .ok false) :
    Run.attempt (retryFrom node attempts (some timeout) (ask generator prompt context) (left + 1)
      count delay last) session =
        Run.attempt (retryFrom node attempts (some timeout) (ask generator prompt context) left
          (count + 1) delay.double (some cause))
            { session with world := paused delay (asked prompt context session.world) } := by
  rw [retryFrom, attempt_bind (attempt_ask unclosed), same]
  dsimp only
  rw [if_neg more, early, paused]
  split <;> rfl

end Asking

/-- A run of attempts to ask a generator that can be asked, of which some are left: the first that
closes the matter, counted from zero, is the last that is made. The pauses before it are those of a
delay that doubles. -/
structure Tries (node : String) (request : String × Value) (outcome : Nat → Generation)
    (count left : Nat) (limit own measure : ℚ) (session : Session)
    (ended : EStateM.Result Failure Session (Except Failure Value)) (k : Nat) : Prop where
  /-- It is one of those that are left. -/
  within : k ≤ left
  /-- It closes the matter. -/
  closes : Closes (outcome k) (k = left) (limit ≤ measure * 2 ^ k)
  /-- None before it does. -/
  first : ∀ j < k, ¬Closes (outcome j) (j = left) (limit ≤ measure * 2 ^ j)
  /-- The generator is called up to then, and the asking ends as the attempt does. -/
  ends : ∃ result world pauses, ended = .ok result { session with world } ∧
    Asks request (k + 1) pauses session.world world ∧ Ends node (outcome k) (count + k) result ∧
    pauses.map Number.rational? =
      if 0 < own then (List.range k).map fun j => some (own * 2 ^ j) else []

section Tries

variable {generator : Nat → String → Value → Generation} {prompt : String} {context : Value}
  {node : String} {attempts : Number} {timeout : Binary64} {limit : ℚ}

/-- An attempt that closes the matter is the last. -/
theorem tries_once {outcome : Nat → Generation} {count left : Nat} {own measure : ℚ}
    {session : Session} {result : Except Failure Value}
    (closes : Closes (outcome 0) (0 = left) (limit ≤ measure * 2 ^ 0))
    (ends : Ends node (outcome 0) count result) :
    Tries node (prompt, context) outcome count left limit own measure session
      (.ok result { session with world := asked prompt context session.world }) 0 := by
  refine ⟨Nat.zero_le left, closes, fun j early => absurd early (Nat.not_lt_zero j), result, _, [],
    rfl, asked_asks session.world, ends, ?_⟩
  split <;> rfl

/-- An attempt that does not close the matter is followed by others, after a pause. -/
theorem Tries.next {outcome : Nat → Generation} {count left k : Nat} {own measure : ℚ}
    {delay : Number} {session : Session}
    {ended : EStateM.Result Failure Session (Except Failure Value)}
    (value : delay.rational? = some own)
    (opens : ¬Closes (outcome 0) (0 = left + 1) (limit ≤ measure * 2 ^ 0))
    (tries : Tries node (prompt, context) (fun step => outcome (step + 1)) (count + 1) left limit
      (2 * own) (2 * measure)
      { session with world := paused delay (asked prompt context session.world) } ended k) :
    Tries node (prompt, context) outcome count (left + 1) limit own measure session ended
      (k + 1) := by
  obtain ⟨within, closes, first, result, world, pauses, done, asks, ends, slept⟩ := tries
  refine ⟨Nat.succ_le_succ within, ?_, ?_, result, world,
    (if Number.lt (.int 0) delay then [delay] else []) ++ pauses, done, ?_, ?_, ?_⟩
  · rw [double_mul_pow] at closes
    simpa using closes
  · intro j early
    cases j with
    | zero => exact opens
    | succ j =>
      have before := first j (Nat.lt_of_succ_lt_succ early)
      rw [double_mul_pow] at before
      simpa using before
  · have pause := paused_asks delay (prompt, context) (asked prompt context session.world)
    have whole := ((asked_asks session.world).trans pause).trans asks
    rwa [Nat.add_comm] at whole
  · rwa [Nat.add_right_comm] at ends
  · have positive : Number.lt (.int 0) delay = decide (0 < own) :=
      Number.lt_eq_decide (by simp [Number.rational?]) value
    rw [List.map_append, slept, positive]
    by_cases paced : 0 < own
    · have twice : 0 < 2 * own := mul_pos two_pos paced
      rw [if_pos (decide_eq_true paced), if_pos twice, if_pos paced, List.range_succ_eq_map,
        List.map_cons, List.map_cons, List.map_map, value, pow_zero, mul_one]
      simp only [double_mul_pow]
      rfl
    · have same : ¬0 < 2 * own := by linarith
      rw [decide_eq_false paced, if_neg Bool.false_ne_true, if_neg same, if_neg paced]
      rfl

/-- After a failure with time left, an asking goes on as the one that follows. -/
theorem retryFrom_next {left count : Nat} {delay : Number} {own measure : ℚ}
    {last : Option Failure} {session : Session} (unclosed : session.world.closed = false)
    {cause : Failure}
    (same : generator (session.world.generations + 1) prompt context = .failure cause)
    (paces : Paces timeout limit (left + 1) delay own measure) (early : measure < limit) {k : Nat}
    (tries : Tries node (prompt, context)
      (fun step => generator (session.world.generations + 1 + (step + 1)) prompt context)
      (count + 1) left limit (2 * own) (2 * measure)
      { session with world := paused delay (asked prompt context session.world) }
      (Run.attempt (retryFrom node attempts (some timeout) (ask generator prompt context) (left + 1)
          (count + 1) delay.double (some cause))
        { session with world := paused delay (asked prompt context session.world) }) k) :
    Tries node (prompt, context)
      (fun step => generator (session.world.generations + 1 + step) prompt context) count (left + 1)
      limit own measure session
      (Run.attempt (retryFrom node attempts (some timeout) (ask generator prompt context)
        (left + 1 + 1) count delay last) session) (k + 1) := by
  have once : measure * 2 ^ 0 < limit := by simpa using early
  have answer : outlasts delay (some timeout) = .ok (decide (limit ≤ measure * 2 ^ 0)) :=
    paces.late 0 (Nat.succ_pos left) nofun
  rw [decide_eq_false (not_le.mpr once)] at answer
  have value : delay.rational? = some own := by
    simpa using paces.value 0 (Nat.succ_pos left) fun j first => Nat.le_zero.mp first ▸ once
  rw [retryFrom_again unclosed same (Nat.succ_ne_zero left) answer]
  refine .next value ?_ tries
  rw [Nat.add_zero, same]
  rintro (⟨⟨⟩⟩ | ⟨⟨⟩⟩ | final | ⟨-, late⟩)
  · exact absurd final (Nat.succ_ne_zero left).symm
  · exact not_le.mpr once late

/-- A generator is asked until an attempt closes the matter. -/
theorem retryFrom_tries (left : Nat) {count : Nat} {delay : Number} {own measure : ℚ}
    {last : Option Failure} {session : Session}
    (paces : Paces timeout limit left delay own measure)
    (total : attempts.rational? = some ((count + left : ℕ) : ℚ))
    (unclosed : session.world.closed = false) :
    ∃ k, Tries node (prompt, context)
      (fun step => generator (session.world.generations + 1 + step) prompt context) count left limit
      own measure session
      (Run.attempt (retryFrom node attempts (some timeout) (ask generator prompt context) (left + 1)
        count delay last) session) k := by
  have number (count : Nat) : (Number.int count).rational? = some (count : ℚ) := by
    simp [Number.rational?]
  -- The delay, the number of the attempt and the world change with every attempt.
  induction left generalizing count delay own measure last session with
  | zero =>
    refine ⟨0, ?_⟩
    cases same : generator (session.world.generations + 1) prompt context with
    | reply value =>
      rw [retryFrom_replied unclosed same]
      exact tries_once (.last rfl) (.replied same)
    | hang =>
      rw [retryFrom_hung unclosed same]
      exact tries_once (.last rfl) (.failed (by simp [same]) (number count))
    | failure cause =>
      rw [retryFrom_last unclosed same]
      exact tries_once (.last rfl) (.failed (by simp [same]) total)
  | succ left ih =>
    cases same : generator (session.world.generations + 1) prompt context with
    | reply value =>
      rw [retryFrom_replied unclosed same]
      exact ⟨0, tries_once (.replied same) (.replied same)⟩
    | hang =>
      rw [retryFrom_hung unclosed same]
      exact ⟨0, tries_once (.hung same) (.failed (by simp [same]) (number count))⟩
    | failure cause =>
      by_cases late : limit ≤ measure * 2 ^ 0
      · have answer : outlasts delay (some timeout) = .ok (decide (limit ≤ measure * 2 ^ 0)) :=
          paces.late 0 (Nat.succ_pos left) nofun
        rw [decide_eq_true late] at answer
        rw [retryFrom_late unclosed same (Nat.succ_ne_zero left) answer]
        exact ⟨0, tries_once (.late same late) (.failed (by simp [same]) (number count))⟩
      · have early : measure < limit := by simpa using late
        let later : Session :=
          { session with world := paused delay (asked prompt context session.world) }
        have generations : later.world.generations = session.world.generations + 1 :=
          paused_generations delay _
        have total : attempts.rational? = some ((count + 1 + left : ℕ) : ℚ) := by
          rw [total, Nat.add_right_comm, Nat.add_assoc]
        obtain ⟨k, tries⟩ := @ih (count + 1) delay.double (2 * own) (2 * measure) (some cause) later
          (paces.double early) total ((paused_closed delay _).trans unclosed)
        rw [generations] at tries
        refine ⟨k + 1, retryFrom_next unclosed same paces early ?_⟩
        simpa only [Nat.add_assoc, Nat.add_comm 1] using tries

end Tries

/-- Settings bound the asking of a generator: by a number of attempts, by a delay that is a rational
no less than zero, and by a timeout that is measured as a rational. A delay that may be compared
with the timeout is measured as a rational too, for which integers can be too large. -/
structure Timed (settings : Settings) (attempts : Nat) (own measure limit : ℚ) : Prop where
  /-- The number of attempts is given. -/
  counted : attemptCount settings.attempts = .ok attempts
  /-- There is an attempt. -/
  some_attempt : 1 ≤ attempts
  /-- The delay is a rational. -/
  delay : settings.delay.rational? = some own
  /-- It is no less than zero. -/
  nonneg : 0 ≤ own
  /-- If there may be another attempt, it is measured as a rational. -/
  measured : 1 < attempts →
    ∃ x, measured settings.delay = .ok x ∧ x.Sized ∧ x.rational? = some measure
  /-- The timeout is measured as a rational. -/
  timeout : ∃ x, Handler.measured settings.timeout = .ok x ∧ x.Sized ∧ x.rational? = some limit
  /-- An integer is not doubled until it cannot be measured. -/
  fits : settings.delay.counted.isLeft → ∀ times, times + 1 < attempts →
    (∀ early < times, measure * 2 ^ early < limit) → measure * 2 ^ times < 2 ^ 1024

/-- Settings that are measured as they are bound the asking of a generator, if twice the timeout can
be measured. -/
theorem timed_of_plain {settings : Settings} {attempts : Nat} {own limit : ℚ}
    (counted : attemptCount settings.attempts = .ok attempts) (once : 1 ≤ attempts)
    (plain : Plain settings.delay) (delay : settings.delay.rational? = some own) (nonneg : 0 ≤ own)
    (settled : Plain settings.timeout) (timeout : settings.timeout.rational? = some limit)
    (positive : 0 < limit) (half : limit ≤ 2 ^ 1023) :
    Timed settings attempts own own limit := by
  obtain ⟨x, found, sized, value⟩ := plain.measured delay nonneg
  refine ⟨counted, once, delay, nonneg, fun _ => ⟨x, found, sized, value⟩,
    settled.measured timeout positive.le, fun _ times _ before => ?_⟩
  cases times with
  | zero =>
    rw [pow_zero, mul_one]
    exact Binary64.lt_of_sized sized value
  | succ times =>
    have last := (before times (Nat.lt_succ_self times)).trans_le half
    calc own * 2 ^ (times + 1)
        = own * 2 ^ times * 2 := by rw [pow_succ, mul_assoc]
      _ < 2 ^ 1023 * 2 := mul_lt_mul_of_pos_right last two_pos
      _ = 2 ^ 1024 := (pow_succ 2 1023).symm

/-- A number of attempts is the rational that is given. -/
theorem rational_of_attemptCount {attempts : Number} {count : Nat}
    (counted : attemptCount attempts = .ok count) (once : 1 ≤ count) :
    attempts.rational? = some (count : ℚ) := by
  have whole {n : Int} (same : n.toNat = count) : (n : ℚ) = count := by
    have equal : n = count := by omega
    rw [equal, Int.cast_natCast]
  cases attempts with
  | int n => rw [Number.rational?, whole (Except.ok.inj counted)]
  | truth b => rw [Number.rational?, whole (Except.ok.inj counted)]
  | float x => cases counted

section Generating

variable {engine : Engine} {attempts : Nat} {own measure limit : ℚ}
  (timed : Timed engine.settings attempts own measure limit)
include timed

/-- The delay of settings that bound the asking keeps pace. -/
theorem Timed.paces {timeout : Binary64} (sized : timeout.Sized)
    (given : timeout.rational? = some limit) {left : Nat} (counts : attempts = left + 1) :
    Paces timeout limit left engine.settings.delay own measure := by
  subst counts
  rcases Nat.eq_zero_or_pos left with rfl | more
  · exact paces_zero ..
  obtain ⟨x, found, sizes, value⟩ := timed.measured (Nat.succ_lt_succ more)
  have exactly := timed.delay
  rw [Number.rational?_eq] at exactly
  cases kind : engine.settings.delay.counted with
  | inl n =>
    rw [kind, Sum.elim_inl, Option.some_inj] at exactly
    have above : 0 ≤ n := by
      have nonneg := timed.nonneg
      rw [← exactly] at nonneg
      exact_mod_cast nonneg
    have fits := timed.fits (by rw [kind]; rfl)
    rw [← exactly]
    exact paces_of_whole given (fun times within => fits times (Nat.succ_lt_succ within)) kind above
      found value
  | inr y =>
    have same : engine.settings.delay = .float y := by
      cases delay : engine.settings.delay with
      | int | truth => rw [delay] at kind; cases kind
      | float z => rw [delay] at kind; cases kind; rfl
    rw [kind, Sum.elim_inr] at exactly
    rw [same] at found ⊢
    cases found
    obtain rfl : measure = own := Option.some.inj (value.symm.trans exactly)
    exact paces_of_float given sized sizes value timed.nonneg left

/-- Trying is what is tried from the first attempt on. -/
theorem Timed.retry_apply {timeout : Binary64}
    (found : Handler.measured engine.settings.timeout = .ok timeout) {α : Type} (node : String)
    (effect : Run (Option α)) (session : Session) :
    retry node engine.settings.attempts engine.settings.delay (some engine.settings.timeout) effect
      session = retryFrom node engine.settings.attempts (some timeout) effect attempts 1
        engine.settings.delay none session := by
  have seconds : (some engine.settings.timeout).mapM Handler.measured =
      (.ok (some timeout) : Except Failure (Option Binary64)) := by
    change some <$> Handler.measured engine.settings.timeout = _
    rw [found]
    rfl
  rw [retry, seconds, timed.counted]
  rfl

omit timed in
/-- The handler of a node that asks a generator asks for knowledge, tries to ask the generator, and
sets the variable to the text of the reply. -/
theorem perform_generate {node : Flow.Node String} {template output : String} {useKnowledge : Bool}
    {generator : Nat → String → Value → Generation}
    (kind : node.content = .generate template output useKnowledge)
    (capable : engine.capabilities.generate = some generator) {session queried : Session}
    {context : Value} (contextual : Handler.context engine useKnowledge session =
      .ok context queried) :
    perform engine node session = (do
      let reply ← retry node.id engine.settings.attempts engine.settings.delay
        (some engine.settings.timeout)
        (ask generator (Template.render session.execution.vars template) context)
      Run.change fun execution =>
        { execution with vars := execution.vars.set output (.text (replyText reply)) }
      return (.follow none, [(.text "output_variable", .text output),
        (.text "context_used", .bool context.truthy)]) : Run (Action × Entries)) queried := by
  have opened : perform engine node session = (do
      let context ← Handler.context engine useKnowledge
      let reply ← retry node.id engine.settings.attempts engine.settings.delay
        (some engine.settings.timeout)
        (ask generator (Template.render session.execution.vars template) context)
      Run.change fun execution =>
        { execution with vars := execution.vars.set output (.text (replyText reply)) }
      return (.follow none, [(.text "output_variable", .text output),
        (.text "context_used", .bool context.truthy)]) : Run (Action × Entries)) session := by
    rw [perform, kind]
    simp only [generate, capable]
    rfl
  rw [opened, bind_of_ok contextual]

/-- A node that asks a generator asks it until an attempt closes the matter, and its handler ends as
that attempt does. -/
theorem perform_asks {node : Flow.Node String} {template output : String} {useKnowledge : Bool}
    {generator : Nat → String → Value → Generation}
    (kind : node.content = .generate template output useKnowledge)
    (capable : engine.capabilities.generate = some generator) {session : Session}
    (unclosed : session.world.closed = false) :
    let prompt := Template.render session.execution.vars template
    let context := backdrop engine useKnowledge (session.world.retrievals + 1) session.execution
    let outcome := fun attempt => generator (session.world.generations + attempt) prompt context
    ∃ k, Decides outcome attempts limit measure k ∧
      ∃ result left pauses, Run.attempt (perform engine node) session = .ok result left ∧
        Asks (prompt, context) k pauses session.world left.world ∧
        pauses.map Number.rational? =
          (if 0 < own then (List.range (k - 1)).map fun j => some (own * 2 ^ j) else []) ∧
        Asked node.id output (outcome k) k context session.execution result left.execution := by
  intro prompt context outcome
  obtain ⟨timeout, found, sized, given⟩ := timed.timeout
  obtain ⟨queried, contextual, unasked⟩ := context_apply engine useKnowledge session
  have performs := perform_generate kind capable contextual
  have before := unasked (prompt, context)
  obtain ⟨left, rfl⟩ := Nat.exists_eq_add_of_le' timed.some_attempt
  have total : engine.settings.attempts.rational? = some ((1 + left : ℕ) : ℚ) := by
    rw [rational_of_attemptCount timed.counted timed.some_attempt, Nat.add_comm]
  obtain ⟨k, within, closes, first, result, world, pauses, done, asks, ends, slept⟩ :=
    @retryFrom_tries generator prompt context node.id engine.settings.attempts timeout limit left 1
      engine.settings.delay own measure none { session with world := queried }
      (timed.paces sized given rfl) total (before.closed.trans unclosed)
  have number (step : Nat) :
      generator (queried.generations + 1 + step) prompt context = outcome (step + 1) := by
    have counted : queried.generations = session.world.generations := before.generations
    rw [counted, Nat.add_right_comm, Nat.add_assoc]
  simp only [number] at closes first ends
  have called := before.trans asks
  rw [Nat.zero_add, List.nil_append] at called
  rw [Nat.add_comm 1 k] at ends
  refine ⟨k + 1, ⟨⟨Nat.succ_pos k, by simpa using closes⟩, ?_⟩, ?_⟩
  · rintro attempt ⟨positive, closed⟩
    by_contra early
    obtain ⟨j, rfl⟩ := Nat.exists_eq_add_of_le' positive
    exact first j (by omega) (by simpa using closed)
  -- The handler goes on from the end of the asking only if there is a reply.
  cases ends with
  | @replied value same =>
    have tried := (timed.retry_apply found _ _ _).trans (Run.attempt_eq_ok done)
    refine ⟨_, ⟨{ session.execution with
      vars := session.execution.vars.set output (.text (replyText value)) }, world⟩, pauses, ?_,
      called, slept, .replied same⟩
    rw [Run.attempt, performs, bind_of_ok tried]
    rfl
  | @failed told cause silent number =>
    have tried := (timed.retry_apply found _ _ _).trans (Run.attempt_eq_error done)
    refine ⟨.error (.capability node.id told cause), ⟨session.execution, world⟩, pauses, ?_, called,
      slept, .failed silent number⟩
    rw [Run.attempt, performs, bind_of_error tried]

end Generating

end Handler

/-- An engine that asks a generator, with a delay and a timeout, and does not keep executions. -/
def Engine.asking (delay timeout : Number) (generator : Nat → Generation) : Engine :=
  { Engine.keepless with
    settings := { Settings.standard with delay, timeout }
    capabilities := { Engine.keepless.capabilities with
      generate := some fun count _ _ => generator count } }

namespace Tick

open Handler

/-- What a visit of a node that asked a generator makes of the execution, by the outcome and the
number of the last attempt. -/
inductive Settles (graph : Flow.Graph) (node : Flow.Node String) (output : String)
    (outcome : Generation) (attempt : Nat) (before after : Execution String) : Prop where
  /-- The generator replied: the variable is set, and the execution takes the edge without a
  label. -/
  | replied {value : Value} (same : outcome = .reply value)
    (vars : after.vars = before.vars.set output (.text (replyText value)))
    (next : match graph.successor node.id none with
      | some target => after.status = .running ∧ after.node = some target
      | none => after.status = .completed)
  /-- It did not: the log tells the number of attempts, no variable changes, and the execution goes
  to the fallback of the node or fails. -/
  | failed {told : Number} {time message : String} (silent : ∀ value, outcome ≠ .reply value)
    (number : told.rational? = some (attempt : ℚ))
    (log : after.log = before.log ++
      [⟨some node.id, .nodeStart, some time, some (.dict [(.text "type", .text node.type)])⟩,
        ⟨some node.id, .nodeError, some time, some (.dict
          [(.text "error", .text "NodeCapabilityFailure"), (.text "message", .text message),
            (.text "attempts", .ofNumber told)])⟩])
    (vars : after.vars = before.vars)
    (next : match node.onError with
      | some fallback => after.status = .running ∧ after.node = some fallback
      | none => after.status = .failed)

/-- The way in which the handler of a node that asked a generator ended settles what the visit makes
of the execution. -/
theorem settles_of_asked (graph : Flow.Graph) {node : Flow.Node String} {output : String}
    {outcome : Generation} {attempt : Nat} {context : Value} {execution left : Execution String}
    {result : Except Failure (Action × Entries)} (now : Time.Moment)
    (running : execution.status = .running)
    (asked : Asked node.id output outcome attempt context (execution.opened node now) result left) :
    Settles graph node output outcome attempt execution (left.closed graph node now result) := by
  cases asked with
  | replied same =>
    refine .replied same ?_ ?_
    · simp only [Execution.closed]
      cases graph.successor node.id none <;> rfl
    · simp only [Execution.closed]
      cases graph.successor node.id none with
      | some target => exact ⟨running, rfl⟩
      | none => rfl
  | @failed told cause silent number =>
    refine @Settles.failed _ _ _ _ _ _ _ told now.text
      (Failure.capability node.id told cause).message silent number ?_ ?_ ?_
    · simp only [Execution.closed]
      have twice := List.append_assoc execution.log
        [⟨some node.id, .nodeStart, some now.text, some (.dict [(.text "type", .text node.type)])⟩]
        [⟨some node.id, .nodeError, some now.text,
          some (.dict (failurePayload (.capability node.id told cause)))⟩]
      cases node.onError <;> exact twice
    · simp only [Execution.closed]
      cases node.onError <;> rfl
    · simp only [Execution.closed]
      cases node.onError with
      | some fallback => exact ⟨running, rfl⟩
      | none => rfl

/-- The node of a flow that asks a generator for a joke. -/
def jokeNode : Flow.Node String := ⟨"joke", "aiKnowledge", .generate "A joke!" "joke" false, none⟩

/-- The definition of a flow that asks a generator for a joke. -/
def joking : Value :=
  .dict [(.text "id", .text "joking"),
    (.text "nodes", .list [
      .dict [(.text "id", .text "in"), (.text "type", .text "start")],
      .dict [(.text "id", .text "joke"), (.text "type", .text "aiKnowledge"),
        (.text "data", .dict [(.text "prompt", .text "A joke!"),
          (.text "outputVariable", .text "joke"), (.text "useKnowledge", .bool false)])]]),
    (.text "edges", .list [.dict [(.text "source", .text "in"), (.text "target", .text "joke")]])]

/-- The graph of the flow that asks for a joke. -/
def jokeGraph : Flow.Graph := (Flow.load [] joking).toOption.getD default

/-- A session that has come to the node that asks for a joke, with generators that can be asked or
not. -/
def jokeAwaited (closed : Bool) : Session where
  execution := { Execution.new "ex0001" "joking" 1 "+31 6" (.empty (.text "ex0001")) default with
    node := some "joke" }
  world := { World.start default (.memory .empty) with closed }

/-- A joke is told at the second call. -/
def secondThought : Nat → Generation
  | 2 => .reply (.text "Knock, knock.")
  | _ => .failure (.raised "ConnectionError" "provider down")

/-- What a visit of the node that asks for a joke comes to: how often the generator was called, the
status of the execution, and the kind of the failure that its log tells of last. -/
def jokeEnds (delay timeout : Number) (generator : Nat → Generation) (closed : Bool) :
    Nat × Status × Option String :=
  let ended := after (visit (.asking delay timeout generator) jokeGraph jokeNode)
    (jokeAwaited closed)
  (ended.world.generations, ended.execution.status, ended.execution.log.getLast?.bind fun entry =>
    match entry.payload with
    | some (.dict ((_, .text kind) :: _)) => some kind
    | _ => none)

end Tick

end Parley
