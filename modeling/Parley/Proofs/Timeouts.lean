import Parley.Proofs.Budgets
import Parley.Proofs.Restoring

/-!
# Timeouts

A timeout that a flow was loaded with is no less than zero, or no number at all: the loader looks
for what is below zero only. A wait can be waited on if the clock can be moved on by its timeout,
which needs a finite number of seconds and a calendar that goes so far. Then the execution is
parked, with a deadline that is not before the clock. Otherwise the visit fails, and the execution
with it if the node names no fallback.
-/

namespace Parley

open Parley.Computation World

namespace Binary64

/-- A number that is no less than zero: one without a sign, or a zero. -/
def Nonnegative : Binary64 → Prop
  | .nan => False
  | .infinite negative => negative = false
  | .finite negative significand _ => negative = false ∨ significand = 0

/-- Something scaled is something. -/
theorem scaled_num_pos {num : Nat} (den : Nat) (power : Int) (filled : 0 < num) :
    0 < (scaled num den power).1 := by
  cases power with
  | ofNat p => exact Nat.mul_pos filled (Nat.pow_pos (by decide))
  | negSucc p => exact filled

/-- Nothing scaled is nothing. -/
theorem scaled_num_zero (den : Nat) (power : Int) : (scaled 0 den power).1 = 0 := by
  cases power with
  | ofNat p => exact Nat.zero_mul _
  | negSucc p => rfl

/-- A scaled quotient has a denominator. -/
theorem scaled_den_pos (num : Nat) {den : Nat} (power : Int) (filled : 0 < den) :
    0 < (scaled num den power).2 := by
  cases power with
  | ofNat p => exact filled
  | negSucc p => exact Nat.mul_pos filled (Nat.pow_pos (by decide))

/-- What is not ordered below zero is no less than zero, or no number. -/
theorem nonnegative_of_order {x : Binary64} (above : x.order zero ≠ some .lt) :
    x = .nan ∨ x.Nonnegative := by
  cases x with
  | nan => exact .inl rfl
  | infinite negative =>
    cases negative with
    | true => exact absurd rfl above
    | false => exact .inr rfl
  | finite negative significand exponent =>
    right
    by_contra below
    simp only [Nonnegative, not_or, Bool.not_eq_false] at below
    obtain ⟨rfl, filled⟩ := below
    apply above
    have positive := scaled_num_pos 1 exponent (Nat.pos_of_ne_zero filled)
    have wide := scaled_den_pos 0 leastExponent (show 0 < 1 by decide)
    simp only [zero, order, compareQuotients, signedQuotient, quotient, Option.some.injEq, if_true,
      Bool.false_eq_true, if_false, scaled_num_zero, compare_lt_iff_lt, Int.natCast_zero,
      Int.zero_mul]
    apply Int.mul_neg_of_neg_of_pos
    · omega
    · omega

/-- A quotient of naturals is no less than zero if it is given no sign, or is of nothing. -/
theorem ofQuotient_nonnegative {negative : Bool} {num : Nat} (den : Nat)
    (above : negative = false ∨ num = 0) : (ofQuotient negative num den).Nonnegative := by
  unfold ofQuotient
  by_cases nothing : num = 0
  · rw [if_pos nothing]
    exact .inr rfl
  · have plain := above.resolve_right nothing
    rw [if_neg nothing]
    dsimp only
    split <;> split
    · exact plain
    · exact .inl plain
    · exact plain
    · exact .inl plain

/-- The product of numbers no less than zero is so, or no number. -/
theorem mul_nonnegative {x y : Binary64} (first : x.Nonnegative) (second : y.Nonnegative) :
    x.mul y = .nan ∨ (x.mul y).Nonnegative := by
  cases x with
  | nan => exact first.elim
  | infinite negative =>
    cases y with
    | nan => exact second.elim
    | infinite other =>
      cases first
      cases second
      exact .inr rfl
    | finite other significand exponent =>
      rw [mul]
      by_cases nothing : significand = 0
      · exact .inl (if_pos nothing)
      · rw [if_neg nothing]
        cases first
        cases second.resolve_right nothing
        exact .inr rfl
  | finite negative significand exponent =>
    cases y with
    | nan => exact second.elim
    | infinite other =>
      rw [mul]
      by_cases nothing : significand = 0
      · exact .inl (if_pos nothing)
      · rw [if_neg nothing]
        cases second
        cases first.resolve_right nothing
        exact .inr rfl
    | finite other factor power =>
      right
      apply ofQuotient_nonnegative
      rcases first with plain | nothing
      · rcases second with same | none
        · exact .inl (by rw [plain, same]; rfl)
        · right
          rw [none, Nat.mul_zero]
          exact scaled_num_zero 1 _
      · right
        rw [nothing, Nat.zero_mul]
        exact scaled_num_zero 1 _

/-- What remains of a number no less than zero when it is cut is so. -/
theorem fraction_nonnegative {negative : Bool} {significand : Nat} (exponent : Int)
    (above : negative = false ∨ significand = 0) :
    (fraction negative significand exponent).Nonnegative := by
  apply ofQuotient_nonnegative
  apply above.imp_right
  intro nothing
  change (scaled significand 1 exponent).1 % _ = 0
  rw [nothing, scaled_num_zero, Nat.zero_mod]

/-- A number no less than zero is cut to one. -/
theorem truncate_nonneg {negative : Bool} {significand : Nat} (exponent : Int)
    (above : negative = false ∨ significand = 0) : 0 ≤ truncate negative significand exponent := by
  rcases above with plain | nothing
  · rw [truncate, if_neg (by simp [plain])]
    omega
  · have whole : floorMagnitude significand exponent = 0 := by
      change (scaled significand 1 exponent).1 / _ = 0
      rw [nothing, scaled_num_zero, Nat.zero_div]
    rw [truncate, whole]
    split <;> decide

end Binary64

namespace Time

/-- The nearest integer to a number no less than zero is so. -/
theorem nearest_nonneg {negative : Bool} {significand : Nat} (exponent : Int)
    (above : negative = false ∨ significand = 0) : 0 ≤ nearest negative significand exponent := by
  rw [nearest]
  dsimp only
  rcases above with plain | nothing
  · rw [if_neg (by simp [plain])]
    omega
  · have whole (den : Nat) : Binary64.roundQuotient 0 den = 0 := by
      simp [Binary64.roundQuotient]
    rw [nothing, Binary64.quotient, Binary64.scaled_num_zero, whole]
    split <;> decide

/-- The seconds of a clock: a number no less than zero is one of microseconds no less than zero, if
it is not infinite. -/
theorem microsOf_cases {seconds : Binary64} (above : seconds.Nonnegative) :
    seconds = .infinite false ∨ ∃ micros, microsOf (.float seconds) = .ok micros ∧ 0 ≤ micros := by
  cases seconds with
  | nan => exact above.elim
  | infinite negative =>
    cases above
    exact .inl rfl
  | finite negative significand exponent =>
    right
    have whole := Binary64.truncate_nonneg exponent above
    have million : (Binary64.ofNat 1000000).Nonnegative :=
      Binary64.ofQuotient_nonnegative 1 (.inl rfl)
    have rest := Binary64.mul_nonnegative million (Binary64.fraction_nonnegative exponent above)
    rw [microsOf]
    split
    · rename_i sign figures power product
      rw [product] at rest
      have part := nearest_nonneg power (rest.resolve_left nofun)
      exact ⟨_, rfl, by omega⟩
    · exact ⟨_, rfl, by omega⟩

/-- A duration no less than zero is refused exactly if its days do not fit. -/
theorem duration_eq {seconds : Number} {micros : Int} (found : microsOf seconds = .ok micros)
    (above : 0 ≤ micros) : duration seconds =
      if 2147483647 < micros / 86400000000 then .error .dayWidth
      else if 999999999 < micros / 86400000000 then .error (.dayCount (micros / 86400000000))
      else .ok micros := by
  have days : micros.fdiv 86400000000 = micros / 86400000000 :=
    Int.fdiv_eq_ediv_of_nonneg micros (by decide)
  rw [duration, found]
  simp only [bind, Except.bind, days]
  have late (least : Int) (negative : least < 0) : ¬micros / 86400000000 < least := by omega
  simp only [late (-2147483648) (by decide), late (-999999999) (by decide), false_or]
  split
  · rfl
  · split <;> rfl

/-- The calendar goes so far as a number of seconds after a moment. -/
def Moment.Reaches (moment : Moment) (seconds : Binary64) : Prop :=
  ∃ micros, microsOf (.float seconds) = .ok micros ∧ (moment.clock : Int) + micros < clockLimit

/-- A moment is not before another if the clock was moved on from there by nothing below zero. -/
theorem Moment.instant_le {moment later : Moment} {micros : Int} (above : 0 ≤ micros)
    (offset : later.offset = moment.offset) (clock : (later.clock : Int) = moment.clock + micros) :
    moment.comparable later = true ∧ moment.instant ≤ later.instant := by
  constructor
  · rw [comparable, offset, beq_self_eq_true]
  · rw [instant, instant, offset, clock]
    omega

variable {moment : Moment} {seconds : Binary64}

/-- Where the calendar goes so far, the clock is moved on to a moment that is not before it. -/
theorem Moment.Reaches.after (reaches : moment.Reaches seconds)
    (above : seconds.order .zero ≠ some .lt) :
    ∃ later : Moment, moment.after (.float seconds) = .ok later ∧
      moment.comparable later = true ∧ moment.instant ≤ later.instant := by
  obtain ⟨micros, found, within⟩ := reaches
  have forth : 0 ≤ micros := by
    rcases Binary64.nonnegative_of_order above with rfl | above
    · cases found
    · rcases microsOf_cases above with rfl | ⟨same, given, forth⟩
      · cases found
      · rw [given] at found
        cases found
        exact forth
  have allowed := duration_eq found forth
  have limit : clockLimit = 315537897600000000 := rfl
  rw [if_neg (by omega), if_neg (by omega)] at allowed
  have inside : 0 ≤ (moment.clock : Int) + micros ∧
      ((moment.clock : Int) + micros).toNat < clockLimit := by omega
  let later : Moment := ⟨((moment.clock : Int) + micros).toNat, inside.2, moment.offset⟩
  have added : moment.addMicros? micros = some later := by
    rw [addMicros?, ofClock?, dif_pos inside]
  have forward : moment.comparable later = true ∧ moment.instant ≤ later.instant :=
    instant_le forth rfl (Int.toNat_of_nonneg inside.1)
  refine ⟨later, ?_, forward⟩
  simp only [Moment.after, allowed, bind, Except.bind, added]
  rfl

/-- Where it does not, the number of seconds is refused: it is no number, or too large. -/
theorem Moment.refused_after (beyond : ¬moment.Reaches seconds)
    (above : seconds.order .zero ≠ some .lt) :
    ∃ fault, moment.after (.float seconds) = .error fault ∧
      fault.kind = if seconds = .nan then "ValueError" else "OverflowError" := by
  rcases Binary64.nonnegative_of_order above with rfl | above
  · exact ⟨.notANumber, rfl, rfl⟩
  have number : seconds ≠ .nan := by
    rintro rfl
    exact above
  rw [if_neg number]
  rcases microsOf_cases above with rfl | ⟨micros, found, forth⟩
  · exact ⟨.infinite, rfl, rfl⟩
  have far : ¬(moment.clock : Int) + micros < clockLimit := fun within =>
    beyond ⟨micros, found, within⟩
  have allowed := duration_eq found forth
  by_cases wide : 2147483647 < micros / 86400000000
  · rw [if_pos wide] at allowed
    refine ⟨.dayWidth, ?_, rfl⟩
    simp only [Moment.after, allowed, bind, Except.bind]
  by_cases many : 999999999 < micros / 86400000000
  · rw [if_neg wide, if_pos many] at allowed
    refine ⟨.dayCount (micros / 86400000000), ?_, rfl⟩
    simp only [Moment.after, allowed, bind, Except.bind]
  · rw [if_neg wide, if_neg many] at allowed
    have outside : moment.addMicros? micros = none := by
      rw [addMicros?, ofClock?, dif_neg (by omega)]
    refine ⟨.range, ?_, rfl⟩
    simp only [Moment.after, allowed, bind, Except.bind, outside]
    rfl

end Time

namespace Flow

/-- A node of a sound graph is found under its id. -/
theorem Graph.Sound.node?_self {graph : Graph} (sound : graph.Sound) {node : Node String}
    (member : node ∈ graph.nodes) : graph.node? node.id = some node := by
  obtain ⟨found, same⟩ := node?_isSome (List.mem_map_of_mem member)
  obtain ⟨among, named⟩ := node?_eq_some same
  rw [same, List.inj_on_of_nodup_map sound.distinct among member named]

/-- No timeout of a graph that was loaded is below zero. -/
theorem timeout_of_load {extensions : Extensions} {raw : Value} {graph : Graph}
    (loaded : load extensions raw = .ok graph) {node : Node String} (member : node ∈ graph.nodes)
    {timeout : Option Binary64} {keywords : List String} {hold : Bool}
    (waits : node.content = .wait timeout keywords hold) (seconds : Binary64)
    (given : timeout = some seconds) : seconds.order .zero ≠ some .lt := by
  obtain ⟨entries, read⟩ := readContent_of_load loaded member
  rw [waits] at read
  have wait : readWait node.id entries = .ok (.wait timeout keywords hold) := read.2.2
  obtain ⟨_, _, _, same, -, above⟩ := readWait_ok wait
  cases same
  exact above seconds given

/-- What a wait node of a graph that was loaded waits for, an hour if it does not say, is not below
zero. -/
theorem seconds_of_load {extensions : Extensions} {raw : Value} {graph : Graph}
    (loaded : load extensions raw = .ok graph) {node : Node String} (member : node ∈ graph.nodes)
    {timeout : Option Binary64} {keywords : List String} {hold : Bool}
    (waits : node.content = .wait timeout keywords hold) :
    (timeout.getD (.ofNat 3600)).order .zero ≠ some .lt := by
  cases given : timeout with
  | none =>
    rw [Option.getD_none]
    decide +kernel
  | some own =>
    rw [Option.getD_some]
    exact timeout_of_load loaded member waits own given

end Flow

namespace Handler

/-- How the handler of a wait ends: with a deadline if its timeout gives one, and otherwise for the
reason why it gives none. -/
def Waited (engine : Engine) (timeout : Option Binary64) (keywords : List String)
    (now : Time.Moment) (execution : Execution String)
    (result : Except Failure (Action × Entries)) (left : Execution String) : Prop :=
  match deadline now (waitSeconds engine timeout) with
  | .ok ends => result = .ok (.suspend, [(.text "timeout", waitSeconds engine timeout)]) ∧
      left = { execution with deadline := some ends, keywords }
  | .error failure => result = .error failure ∧ left = execution

variable (engine : Engine) {timeout : Option Binary64} {keywords : List String} {hold : Bool}

/-- With the default settings, a wait that does not say for how long is one of an hour. -/
theorem waitSeconds_standard {engine : Engine} (standard : engine.settings = .standard)
    (timeout : Option Binary64) :
    waitSeconds engine timeout = .float (timeout.getD (.ofNat 3600)) := by
  unfold waitSeconds
  rw [standard]
  cases timeout <;> rfl

/-- The handler of a wait node ends as its timeout says. -/
theorem perform_wait {node : Flow.Node String} (session : Session)
    (kind : node.content = .wait timeout keywords hold) :
    Comes engine (perform engine node) session
      (Waited engine timeout keywords session.world.clock session.execution) := by
  have same : Run.attempt (perform engine node) session = Run.attempt (do
      let ends ← Run.ofExcept (deadline session.world.clock (waitSeconds engine timeout))
      Run.change fun execution => { execution with deadline := some ends, keywords }
      return (.suspend, [(.text "timeout", waitSeconds engine timeout)])) session := by
    rw [perform, kind]
    rfl
  unfold Waited
  cases found : deadline session.world.clock (waitSeconds engine timeout) with
  | ok ends =>
    rw [found] at same
    exact ⟨_, _, same, refl_of _ session.world, rfl, rfl⟩
  | error failure =>
    rw [found] at same
    exact ⟨_, _, same, refl_of _ session.world, rfl, rfl⟩

section Ends

variable {engine} {now : Time.Moment} {execution left : Execution String}
  {result : Except Failure (Action × Entries)}
  (waited : Waited engine timeout keywords now execution result left)
include waited

/-- The handler of a wait leaves a running execution running. -/
theorem Waited.running (running : execution.status = .running) : left.status = .running := by
  unfold Waited at waited
  split at waited <;> rw [waited.2, ← running]

variable (standard : engine.settings = .standard)
  (above : (timeout.getD (.ofNat 3600)).order .zero ≠ some .lt)
include standard above

/-- With the default settings, a wait ends with a deadline that is not before the clock if the
calendar goes so far. -/
theorem Waited.parks (reaches : now.Reaches (timeout.getD (.ofNat 3600))) :
    ∃ ends payload, result = .ok (.suspend, payload) ∧
      left = { execution with deadline := some ends, keywords } ∧
      now.comparable ends = true ∧ now.instant ≤ ends.instant := by
  obtain ⟨ends, passed, comparable, later⟩ := reaches.after above
  have given : deadline now (waitSeconds engine timeout) = .ok ends := by
    rw [waitSeconds_standard standard, deadline]
    simp only [Value.number?, passed]
  rw [Waited, given] at waited
  exact ⟨ends, _, waited.1, waited.2, comparable, later⟩

/-- Otherwise it ends for what is wrong with the timeout. -/
theorem Waited.fails (beyond : ¬now.Reaches (timeout.getD (.ofNat 3600))) :
    ∃ fault : Time.Fault, result = .error (.time fault) ∧ left = execution ∧ fault.kind =
      if timeout.getD (.ofNat 3600) = .nan then "ValueError" else "OverflowError" := by
  obtain ⟨fault, refused, kind⟩ := Time.Moment.refused_after beyond above
  have given : deadline now (waitSeconds engine timeout) = .error (.time fault) := by
    rw [waitSeconds_standard standard, deadline]
    simp only [Value.number?, refused]
  rw [Waited, given] at waited
  exact ⟨fault, waited.1, waited.2, kind⟩

end Ends

end Handler

namespace Tick

variable (engine : Engine) (graph : Flow.Graph) {watched : Bool} {start middle : Session}
  {steps : Nat}

/-- A tick is over with the round that hands over an execution that does not run. -/
theorem Stands.tick_hands (stands : Stands engine graph watched start steps middle)
    (running : start.execution.status = .running)
    (within : steps < fuelOf engine.settings.budget) {handed : Execution String}
    (hands : Hands engine handed handed.runs middle.world
      (Tick.round engine graph watched steps middle)) (rests : handed.runs = false) :
    Hands engine handed handed.status middle.world (tick engine graph watched start) := by
  rw [rests] at hands
  have stops (next : Session) : Tick.round engine graph watched steps middle ≠ .ok true next := by
    intro goes
    rw [goes] at hands
    cases hands
  rw [stands.tick_stops running within stops, bind_apply]
  generalize Tick.round engine graph watched steps middle = result at hands
  cases hands with
  | taken stir kept => exact .taken stir kept
  | refused stir kept raised => exact .refused stir kept raised

/-- A round at a wait node, with budget left and no request to stop, hands over what the handler of
the wait makes of the execution. -/
theorem round_waits {node : Flow.Node String} {timeout : Option Binary64} {keywords : List String}
    {hold : Bool} (found : middle.execution.node.bind graph.node? = some node)
    (waits : node.content = .wait timeout keywords hold)
    (running : middle.execution.status = .running)
    (unasked : (watched && middle.world.interrupted) = false)
    (affordable : ¬engine.settings.budget.le (.int steps)) :
    ∃ result left, Handler.Waited engine timeout keywords middle.world.clock
        (middle.execution.opened node middle.world.clock) result left ∧
      let handed := left.closed graph node middle.world.clock result
      Hands engine handed handed.runs middle.world
        (Tick.round engine graph watched steps middle) := by
  rw [round_of_affordable engine graph watched unasked affordable,
    proceed_of_found engine graph found]
  apply visit_comes engine
  · intro stirred stir
    have comes := Handler.perform_wait engine
      ⟨middle.execution.opened node middle.world.clock, stirred⟩ waits
    simp only [stir.clock] at comes
    exact comes
  · intro result left waited
    exact waited.running running

/-- A running execution that comes to a wait node of a graph that was loaded, with budget left and
no request to stop, is parked there with a deadline that is not before the clock, if the calendar
goes so far as the timeout. If it does not, the visit fails for that, and the execution goes on at
the fallback of the node or fails. -/
theorem wait_outcome {extensions : Flow.Extensions} {raw : Value}
    (loaded : Flow.load extensions raw = .ok graph) {node : Flow.Node String}
    (member : node ∈ graph.nodes) {timeout : Option Binary64} {keywords : List String} {hold : Bool}
    (waits : node.content = .wait timeout keywords hold) (standard : engine.settings = .standard)
    (running : start.execution.status = .running)
    (stands : Stands engine graph watched start steps middle)
    (reached : middle.execution.node = some node.id)
    (unasked : (watched && middle.world.interrupted) = false)
    (affordable : ¬engine.settings.budget.le (.int steps)) :
    let clock := middle.world.clock
    let seconds := timeout.getD (.ofNat 3600)
    (clock.Reaches seconds → ∃ ends parked,
      Hands engine parked .waiting middle.world (tick engine graph watched start) ∧
        parked.status = .waiting ∧ parked.node = some node.id ∧ parked.deadline = some ends ∧
        parked.keywords = keywords ∧ clock.comparable ends = true ∧
        clock.instant ≤ ends.instant) ∧
    (¬clock.Reaches seconds → ∃ fault failed,
      fault.kind = (if seconds = .nan then "ValueError" else "OverflowError") ∧
        Hands engine failed failed.runs middle.world (round engine graph watched steps middle) ∧
        failed.log = middle.execution.log ++
          [⟨some node.id, .nodeStart, some clock.text,
              some (.dict [(.text "type", .text node.type)])⟩,
            ⟨some node.id, .nodeError, some clock.text,
              some (.dict (failurePayload (.time fault)))⟩] ∧
        (∀ fallback, node.onError = some fallback →
          failed.status = .running ∧ failed.node = some fallback) ∧
        (node.onError = none → failed.status = .failed ∧
          Hands engine failed .failed middle.world (tick engine graph watched start))) := by
  intro clock seconds
  have sound := Flow.load_sound loaded
  have found : middle.execution.node.bind graph.node? = some node := by
    rw [reached]
    exact sound.node?_self member
  have runs := (stands.rounds running).2.1
  have within : steps < fuelOf engine.settings.budget := by
    rw [standard] at affordable ⊢
    have few := mt (Number.int_le 1000 steps).mpr affordable
    change steps < 1001
    omega
  have above := Flow.seconds_of_load loaded member waits
  obtain ⟨result, left, waited, hands⟩ :=
    round_waits engine graph found waits runs unasked affordable
  constructor
  · intro reaches
    obtain ⟨ends, payload, rfl, rfl, comparable, later⟩ := waited.parks standard above reaches
    have parks := stands.tick_hands engine graph running within hands rfl
    exact ⟨ends, _, parks, rfl, reached, rfl, rfl, comparable, later⟩
  · intro beyond
    obtain ⟨fault, rfl, rfl, kind⟩ := waited.fails standard above beyond
    refine ⟨fault, _, kind, hands, ?_, ?_, ?_⟩
    · rw [Execution.closed]
      cases node.onError <;> exact List.append_assoc _ _ _
    · intro fallback named
      rw [Execution.closed, named]
      exact ⟨runs, rfl⟩
    · intro alone
      rw [Execution.closed, alone] at hands ⊢
      exact ⟨rfl, stands.tick_hands engine graph running within hands rfl⟩

/-- A definition with a wait of a timeout. -/
def sleeping (timeout : Value) : Value :=
  .dict [(.text "id", .text "sleeping"),
    (.text "nodes", .list [
      .dict [(.text "id", .text "in"), (.text "type", .text "start")],
      .dict [(.text "id", .text "sleep"), (.text "type", .text "wait"),
        (.text "data", .dict [(.text "timeout", timeout)])]]),
    (.text "edges", .list [.dict [(.text "source", .text "in"), (.text "target", .text "sleep")]])]

/-- An execution that has come to the wait at noon. -/
def sleeper : Session where
  execution := { Execution.new "ex0001" "sleeping" 1 "+31 6" (.empty (.text "ex0001"))
      (Execution.noon (some .utc) ⟨0, by decide⟩) with node := some "sleep" }
  world := .start (Execution.noon (some .utc) ⟨0, by decide⟩) (.memory .empty)

/-- A wait of half a minute is waited on. -/
theorem half_minute_waited :
    ∃ graph, Flow.load [] (sleeping (.text "30")) = .ok graph ∧
      ⟨"sleep", "wait", .wait (some (.ofNat 30)) [] false, none⟩ ∈ graph.nodes ∧
      sleeper.execution.status = .running ∧
      Stands .keepless graph true sleeper 0 sleeper ∧
      sleeper.execution.node = some "sleep" ∧ (true && sleeper.world.interrupted) = false ∧
      ¬Engine.keepless.settings.budget.le (.int 0) ∧
      sleeper.world.clock.Reaches (.ofNat 30) ∧
      ∃ ends parked, Hands Engine.keepless parked .waiting sleeper.world
          (tick .keepless graph true sleeper) ∧
        parked.deadline = some ends ∧ sleeper.world.clock.instant ≤ ends.instant := by
  let graph := (Flow.load [] (sleeping (.text "30"))).toOption.getD default
  have loaded : Flow.load [] (sleeping (.text "30")) = .ok graph :=
    ok_of_toOption (by decide +kernel)
  have member : (⟨"sleep", "wait", .wait (some (.ofNat 30)) [] false, none⟩ : Flow.Node String) ∈
      graph.nodes := by decide +kernel
  have affordable : ¬Engine.keepless.settings.budget.le (.int 0) := by decide
  have reaches : sleeper.world.clock.Reaches (.ofNat 30) :=
    ⟨30000000, ok_of_toOption (by decide +kernel), by decide⟩
  have begins : Stands .keepless graph true sleeper 0 sleeper := .start
  obtain ⟨ends, parked, hands, -, -, deadline, -, -, later⟩ :=
    (wait_outcome .keepless graph loaded member rfl rfl rfl begins rfl rfl affordable).1 reaches
  exact ⟨graph, loaded, member, rfl, begins, rfl, rfl, affordable, reaches, ends, parked, hands,
    deadline, later⟩

/-- A wait whose timeout is no number, infinite or beyond the calendar is loaded, and fails the
execution that comes to it. -/
theorem endless_waits_fail :
    [.text "nan", .text "inf", .float (.ofDecimal false 1 300)].map (fun timeout =>
      (Flow.load [] (sleeping timeout)).toOption.map fun graph =>
        (after (tick .keepless graph true) sleeper).execution.status) =
      [some .failed, some .failed, some .failed] := by
  decide +kernel

end Tick

end Parley
