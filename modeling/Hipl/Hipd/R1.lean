import Hipl.Hipd.Keymat

/-!
# The R1 and the SOLUTION of the I2

The initiator answers an R1 with an I2. `hip_handle_r1` solves the R1's puzzle, stores I and the
solution J in the host association, starts the I2 and derives the keys from the stored I and J;
`hip_build_solution` then adds the SOLUTION, with the K, the opaque data and the I of the R1's
PUZZLE and the stored J. In I2_SENT an R1 is taken for a retransmission: the puzzle is not
solved again, and the stored I and J are kept "to preserve the old solution".

The first R1 of an exchange stores the I of its own PUZZLE, so the SOLUTION carries the I and J
the keys were derived from, and J solves the R1's puzzle (`hipR1Handlers_fresh`). A
retransmission derives the keys from the stored I and J but copies I and K from the new R1's
PUZZLE (`hipR1Handlers_retransmission`): the two agree only when the new R1 carries the stored
I, which a responder that rotates its precreated R1s does not guarantee.

Scope. solve.c, builder.c and the handler table of init.c are not among the sources. The
puzzle's condition follows the spec (§2): J solves (I, K) when the hash of I, the two HITs and J
ends in K zero bits. The solver and its random start are a parameter that meets this condition;
the R1 handlers run as the spec's state table has them (§4.F): `hip_handle_r1`, then
`hip_build_solution`.
-/

set_option autoImplicit false
set_option relaxedAutoImplicit false

namespace Hipl.Hipd

open Hipl.Wire

/-- `HIP_NAT_MODE_NONE`. -/
def hipNatModeNone : Nat := 0

/-- `HIP_NAT_MODE_PLAIN_UDP`. -/
def hipNatModePlainUdp : Nat := 1

/-- `struct puzzle_hash_input`: the puzzle's I, the initiator's and the responder's HIT, and a
candidate solution J. -/
structure PuzzleHashInput where
  puzzle : Bytes
  initiatorHit : Hit
  responderHit : Hit
  solution : Bytes
  deriving DecidableEq, Repr

/-- Modelled from the spec: J solves the puzzle of difficulty K when the hash of I, the
initiator's HIT, the responder's HIT and J has K low-order zero bits (§2). -/
def puzzleSolves (hash : Bytes → Bytes) (input : PuzzleHashInput) (K : Nat) : Bool :=
  beNat (hash (input.puzzle ++ beBytes 16 input.initiatorHit ++ beBytes 16 input.responderHit ++
    input.solution)) % 2 ^ K = 0

/-- What `hip_handle_r1` calls outside the sources: `RAND_bytes` for the first candidate, and
`hip_solve_puzzle`, which searches from the candidate on and gives a solution of
`PUZZLE_LENGTH` bytes, or fails. -/
structure PuzzleSolver where
  hash : Bytes → Bytes
  randBytes : Bytes
  solve : PuzzleHashInput → Nat → Option Bytes
  solve_solves : ∀ input K J, solve input K = some J →
    puzzleSolves hash { input with solution := J } K = true
  length_solve : ∀ input K J, solve input K = some J → J.length = puzzleLength

/-! ### `hip_handle_r1` -/

/-- An R1 to a NAT'ed port: NAT mode on, unless it is on already. The host association is
read only when the port is set. -/
def r1NatMode (ctx : HipPacketContext) : Except Fault HipPacketContext :=
  if ctx.dstPort = 0 then pure ctx else do
    let ha ← ctx.readHa
    if ha.natMode = hipNatModeNone then
      ctx.modifyHa fun ha ↦ { ha with natMode := hipNatModePlainUdp }
    else pure ctx

/-- The R1 generation counter, stored when the R1 has one. -/
def r1StoreBirthday (ctx : HipPacketContext) : Except Fault HipPacketContext :=
  match hipGetParam ctx.inputMsg .r1Counter with
  | some p => do
    let generation ← hipR1CounterGeneration ctx.inputMsg (some p)
    ctx.modifyHa fun ha ↦ { ha with birthday := generation }
  | none => pure ctx

/-- The puzzle of an R1 that is not a retransmission: solved from the random candidate, with
the initiator's HIT the R1's receiver, and I and J stored. `none` is the `-EINVAL` of a missing
PUZZLE or a failed solver. -/
def r1SolvePuzzle (solver : PuzzleSolver) (ctx : HipPacketContext) :
    Except Fault (Option HipPacketContext) := do
  let msg := ctx.inputMsg
  let some pz := hipGetParam msg .puzzle | pure none
  let I ← hipPuzzleI msg (some pz)
  let K ← hipPuzzleK msg (some pz)
  let some J := solver.solve ⟨I, msg.hitReceiver, msg.hitSender, solver.randBytes⟩ K
    | pure none
  some <$> ctx.modifyHa fun ha ↦ { ha with puzzleI := I, puzzleSolution := J }

/-- The I2 `hip_build_network_hdr` starts: from the R1's receiver to its sender, at the host
association's HIP version. -/
def r1I2Header (msg : HipCommon) (ha : HipHa) : HipCommon :=
  ⟨hipI2, ha.hipVersion.toNat, 0, msg.hitReceiver, msg.hitSender, []⟩

/-- `hip_handle_r1(packet_type, ha_state, ctx)`. -/
def hipHandleR1 (solver : PuzzleSolver) (crypto : KeymatCrypto) (dh : Bytes → Option Bytes)
    (haState : HipState) (ctx : HipPacketContext) : Except Fault (Int × HipPacketContext) := do
  let ctx ← r1NatMode ctx
  let ctx ← r1StoreBirthday ctx
  let some ctx ← (if haState = .i2Sent then pure (some ctx) else r1SolvePuzzle solver ctx)
    | pure (-22, ctx)
  let ha ← ctx.readHa
  let ctx := { ctx with outputMsg := r1I2Header ctx.inputMsg ha }
  let (err, ctx) ← produceKeyingMaterial crypto dh ctx ha.puzzleI ha.puzzleSolution
  if err ≠ 0 then pure (-22, ctx) else pure (0, ctx)

/-- `hip_build_solution(packet_type, ha_state, ctx)`: `-ENOENT` without a PUZZLE. -/
def hipBuildSolution (ctx : HipPacketContext) : Except Fault (Int × HipPacketContext) := do
  let some pz := hipGetParam ctx.inputMsg .puzzle | pure (-2, ctx)
  let ha ← ctx.readHa
  let out ← hipBuildParamSolution ctx.outputMsg ctx.inputMsg (some pz) ha.puzzleSolution
  pure (0, { ctx with outputMsg := out })

/-- Modelled from the spec: the handlers of an R1 in I1_SENT or I2_SENT, in order, until one
fails (§4.F). -/
def hipR1Handlers (solver : PuzzleSolver) (crypto : KeymatCrypto) (dh : Bytes → Option Bytes)
    (haState : HipState) (ctx : HipPacketContext) : Except Fault (Int × HipPacketContext) := do
  let (err, ctx) ← hipHandleR1 solver crypto dh haState ctx
  if err ≠ 0 then pure (err, ctx) else hipBuildSolution ctx

/-! ### What each step keeps -/

/-- The puzzle I and the solution J a host association stores. -/
def HipHa.storedPuzzle (ha : HipHa) : Bytes × Bytes :=
  (ha.puzzleI, ha.puzzleSolution)

/-- A step that keeps the received message and the stored puzzle and solution, and has a host
association exactly when it had one before. -/
structure KeepsPuzzle (ctx ctx' : HipPacketContext) : Prop where
  inputMsg : ctx'.inputMsg = ctx.inputMsg
  puzzle : ctx'.hadbEntry.map HipHa.storedPuzzle = ctx.hadbEntry.map HipHa.storedPuzzle

theorem KeepsPuzzle.refl (ctx : HipPacketContext) : KeepsPuzzle ctx ctx :=
  ⟨rfl, rfl⟩

theorem KeepsPuzzle.trans {ctx ctx' ctx'' : HipPacketContext} (h : KeepsPuzzle ctx ctx')
    (h' : KeepsPuzzle ctx' ctx'') : KeepsPuzzle ctx ctx'' :=
  ⟨h'.inputMsg.trans h.inputMsg, h'.puzzle.trans h.puzzle⟩

/-- A write to the host association that leaves I and J alone keeps the puzzle. -/
theorem KeepsPuzzle.of_modifyHa {ctx ctx' : HipPacketContext} {f : HipHa → HipHa}
    (h : ctx.modifyHa f = .ok ctx') (hf : ∀ ha, (f ha).storedPuzzle = ha.storedPuzzle) :
    KeepsPuzzle ctx ctx' := by
  obtain ⟨ha, hha, rfl⟩ := HipPacketContext.modifyHa_eq_ok h
  exact ⟨rfl, by simp [hha, hf]⟩

theorem r1NatMode_keepsPuzzle {ctx ctx' : HipPacketContext} (h : r1NatMode ctx = .ok ctx') :
    KeepsPuzzle ctx ctx' := by
  unfold r1NatMode at h
  split at h
  · cases h
    exact .refl _
  obtain ⟨ha, -, h⟩ := bind_eq_ok.1 h
  split at h
  · exact .of_modifyHa h fun _ ↦ rfl
  · cases h
    exact .refl _

theorem r1StoreBirthday_keepsPuzzle {ctx ctx' : HipPacketContext}
    (h : r1StoreBirthday ctx = .ok ctx') : KeepsPuzzle ctx ctx' := by
  unfold r1StoreBirthday at h
  split at h
  · obtain ⟨_, -, h⟩ := bind_eq_ok.1 h
    exact .of_modifyHa h fun _ ↦ rfl
  · cases h
    exact .refl _

/-- A solved puzzle: the R1's I and K, and the solver's J stored with I. -/
theorem r1SolvePuzzle_eq_some {solver : PuzzleSolver} {ctx ctx' : HipPacketContext}
    (h : r1SolvePuzzle solver ctx = .ok (some ctx')) :
    ∃ pz I K J ha, hipGetParam ctx.inputMsg .puzzle = some pz ∧
      hipPuzzleI ctx.inputMsg (some pz) = .ok I ∧ hipPuzzleK ctx.inputMsg (some pz) = .ok K ∧
      solver.solve ⟨I, ctx.inputMsg.hitReceiver, ctx.inputMsg.hitSender, solver.randBytes⟩ K =
        some J ∧ ctx.hadbEntry = some ha ∧
      ctx' = { ctx with hadbEntry := some { ha with puzzleI := I, puzzleSolution := J } } := by
  unfold r1SolvePuzzle at h
  rcases hpz : hipGetParam ctx.inputMsg .puzzle with _ | pz <;> simp only [hpz] at h
  · cases h
  obtain ⟨I, hI, h⟩ := bind_eq_ok.1 h
  obtain ⟨K, hK, h⟩ := bind_eq_ok.1 h
  rcases hJ : solver.solve ⟨I, ctx.inputMsg.hitReceiver, ctx.inputMsg.hitSender,
    solver.randBytes⟩ K with _ | J <;> simp only [hJ] at h
  · cases h
  obtain ⟨c, hc, h⟩ := map_eq_ok.1 h
  obtain ⟨ha, hha, rfl⟩ := HipPacketContext.modifyHa_eq_ok hc
  cases h
  exact ⟨pz, I, K, J, ha, rfl, hI, hK, hJ, hha, rfl⟩

/-! ### The handlers of an R1 -/

section Handlers

variable {solver : PuzzleSolver} {crypto : KeymatCrypto} {dh : Bytes → Option Bytes}
  {haState : HipState} {ctx ctx' : HipPacketContext}

/-- An R1 that `hip_handle_r1` accepts went through the NAT and generation steps, the puzzle
step of its state, and `produce_keying_material` with the I and J the host association then
stores. -/
theorem hipHandleR1_eq_ok_zero (h : hipHandleR1 solver crypto dh haState ctx = .ok (0, ctx')) :
    ∃ c c' ha, KeepsPuzzle ctx c ∧
      (if haState = .i2Sent then pure (some c) else r1SolvePuzzle solver c) = .ok (some c') ∧
      c'.hadbEntry = some ha ∧
      produceKeyingMaterial crypto dh { c' with outputMsg := r1I2Header c'.inputMsg ha }
        ha.puzzleI ha.puzzleSolution = .ok (0, ctx') := by
  obtain ⟨c0, h0, h⟩ := bind_eq_ok.1 h
  obtain ⟨c, h1, h⟩ := bind_eq_ok.1 h
  obtain ⟨oc, hoc, h⟩ := bind_eq_ok.1 h
  rcases oc with _ | c'
  · simp at h
  obtain ⟨ha, hha, h⟩ := bind_eq_ok.1 h
  obtain ⟨⟨err, ctx1⟩, hp, h⟩ := bind_eq_ok.1 h
  by_cases herr : err = 0
  · subst herr
    simp only [ne_eq, not_true_eq_false, if_false, pure_eq_ok, Except.ok.injEq, Prod.mk.injEq,
      true_and] at h
    subst h
    exact ⟨c, c', ha, (r1NatMode_keepsPuzzle h0).trans (r1StoreBirthday_keepsPuzzle h1), hoc,
      HipPacketContext.readHa_eq_ok hha, hp⟩
  · simp [herr] at h

/-- What `hip_build_solution` adds when it returns 0: the SOLUTION of the received PUZZLE and
the stored J. -/
theorem hipBuildSolution_eq_ok_zero (h : hipBuildSolution ctx = .ok (0, ctx')) :
    ∃ pz ha K opq I, hipGetParam ctx.inputMsg .puzzle = some pz ∧ ctx.hadbEntry = some ha ∧
      paramBytes ctx.inputMsg (some pz) 0 1 = .ok K ∧
      hipPuzzleOpaqueBytes ctx.inputMsg (some pz) = .ok opq ∧
      hipPuzzleI ctx.inputMsg (some pz) = .ok I ∧
      ctx' = { ctx with
        outputMsg := hipBuildParam ctx.outputMsg ⟨.solution, K ++ [0] ++ opq ++ I ++ ha.puzzleSolution⟩ } := by
  unfold hipBuildSolution at h
  rcases hpz : hipGetParam ctx.inputMsg .puzzle with _ | pz <;> simp only [hpz] at h
  · simp at h
  obtain ⟨ha, hha, h⟩ := bind_eq_ok.1 h
  obtain ⟨out, hout, h⟩ := bind_eq_ok.1 h
  obtain ⟨K, opq, I, hK, hopq, hI, rfl⟩ := hipBuildParamSolution_eq_ok hout
  cases h
  exact ⟨pz, ha, K, opq, I, rfl, HipPacketContext.readHa_eq_ok hha, hK, hopq, hI, rfl⟩

/-- A run of the R1 handlers that returns 0 ran both with 0. -/
theorem hipR1Handlers_eq_ok_zero (h : hipR1Handlers solver crypto dh haState ctx = .ok (0, ctx')) :
    ∃ ctx1, hipHandleR1 solver crypto dh haState ctx = .ok (0, ctx1) ∧
      hipBuildSolution ctx1 = .ok (0, ctx') := by
  obtain ⟨⟨err, ctx1⟩, h1, h⟩ := bind_eq_ok.1 h
  by_cases herr : err = 0
  · subst herr
    exact ⟨ctx1, h1, by simpa using h⟩
  · simp [herr] at h

/-- The I2 an accepted R1 is answered with: the keys derived from the I and J the host
association holds, and a SOLUTION with the K and I of the R1's PUZZLE and that J. -/
theorem r1I2_solution {c ctx1 : HipPacketContext} {ha : HipHa} (hha : c.hadbEntry = some ha)
    (hp : produceKeyingMaterial crypto dh { c with outputMsg := r1I2Header c.inputMsg ha }
      ha.puzzleI ha.puzzleSolution = .ok (0, ctx1))
    (hb : hipBuildSolution ctx1 = .ok (0, ctx')) :
    ∃ pz l kij espKeymatIndex ha', deriveKeys crypto.sha1 l ha c.inputMsg ha.puzzleI
        ha.puzzleSolution kij espKeymatIndex = .ok ha' ∧ ctx'.hadbEntry = some ha' ∧
      hipGetParam c.inputMsg .puzzle = some pz ∧ hipGetParam ctx'.outputMsg .solution = some 0 ∧
      hipSolutionK ctx'.outputMsg (some 0) = hipPuzzleK c.inputMsg (some pz) ∧
      hipSolutionI ctx'.outputMsg (some 0) = hipPuzzleI c.inputMsg (some pz) ∧
      (ha.puzzleSolution.length = puzzleLength →
        hipSolutionJ ctx'.outputMsg (some 0) = .ok ha.puzzleSolution) := by
  obtain ⟨hipTfm, espTfm, kij, ha0, ha', idx, -, hha0, hd, rfl⟩ := produceKeyingMaterial_eq_ok_zero hp
  obtain rfl : ha0 = ha := Option.some.inj (hha0.symm.trans hha)
  obtain ⟨pz, ha2, K, opq, I, hpz, hha2, hK, hopq, hI, rfl⟩ := hipBuildSolution_eq_ok_zero hb
  obtain rfl : ha2 = ha' := (Option.some.inj hha2).symm
  obtain ⟨keys, currentKeymatK, rfl⟩ := deriveKeys_frame hd
  have hsol : (hipBuildParam (r1I2Header c.inputMsg ha0) ⟨.solution, K ++ [0] ++ opq ++ I ++
      ha0.puzzleSolution⟩).params[0]? = some ⟨.solution, K ++ [0] ++ opq ++ I ++
      ha0.puzzleSolution⟩ := rfl
  obtain ⟨hsK, hsI, hsJ⟩ := solutionTlv_fields (length_of_paramBytes hK)
    (length_of_paramBytes hopq) (length_of_paramBytes hI) hsol
  refine ⟨pz, _, kij, idx, _, hd, rfl, hpz, rfl, ?_, hsI.trans hI.symm, hsJ⟩
  rw [hsK, hipPuzzleK, paramNat, hK]
  rfl

theorem KeepsPuzzle.ha_of_some {ctx ctx' : HipPacketContext} {ha' : HipHa}
    (h : KeepsPuzzle ctx ctx') (hha' : ctx'.hadbEntry = some ha') :
    ∃ ha, ctx.hadbEntry = some ha ∧ ha'.puzzleI = ha.puzzleI ∧
      ha'.puzzleSolution = ha.puzzleSolution := by
  have hmap := h.puzzle
  rw [hha'] at hmap
  rcases hha : ctx.hadbEntry with _ | ha
  · simp [hha] at hmap
  · simp only [hha, Option.map_some', Option.some.injEq, HipHa.storedPuzzle, Prod.mk.injEq] at hmap
    exact ⟨ha, rfl, hmap⟩

/-- An R1 in I2_SENT: the keys are derived from the I and J the host association stored before,
while the SOLUTION takes K and I from the new R1's PUZZLE. -/
theorem hipR1Handlers_retransmission
    (h : hipR1Handlers solver crypto dh .i2Sent ctx = .ok (0, ctx')) :
    ∃ ha ha1 pz l kij espKeymatIndex ha', ctx.hadbEntry = some ha ∧
      deriveKeys crypto.sha1 l ha1 ctx.inputMsg ha.puzzleI ha.puzzleSolution kij
        espKeymatIndex = .ok ha' ∧ ctx'.hadbEntry = some ha' ∧
      hipGetParam ctx.inputMsg .puzzle = some pz ∧ hipGetParam ctx'.outputMsg .solution = some 0 ∧
      hipSolutionK ctx'.outputMsg (some 0) = hipPuzzleK ctx.inputMsg (some pz) ∧
      hipSolutionI ctx'.outputMsg (some 0) = hipPuzzleI ctx.inputMsg (some pz) ∧
      (ha.puzzleSolution.length = puzzleLength →
        hipSolutionJ ctx'.outputMsg (some 0) = .ok ha.puzzleSolution) := by
  obtain ⟨ctx1, h1, h2⟩ := hipR1Handlers_eq_ok_zero h
  obtain ⟨c, c', ha1, hkeep, hc, hha1, hp⟩ := hipHandleR1_eq_ok_zero h1
  obtain rfl : c = c' := by simpa using hc
  obtain ⟨pz, l, kij, idx, ha', hd, hha', hpz, hsol, hK, hI, hJ⟩ := r1I2_solution hha1 hp h2
  obtain ⟨ha, hha, hpi, hps⟩ := hkeep.ha_of_some hha1
  rw [hkeep.inputMsg] at hd hpz hK hI
  rw [hpi, hps] at hd
  exact ⟨ha, ha1, pz, l, kij, idx, ha', hha, hd, hha', hpz, hsol, hK, hI, hps ▸ hJ⟩

/-- The first R1: J solves the R1's puzzle, the keys are derived from the R1's I and that J, and
the SOLUTION carries the same K, I and J. -/
theorem hipR1Handlers_fresh (hs : haState ≠ .i2Sent)
    (h : hipR1Handlers solver crypto dh haState ctx = .ok (0, ctx')) :
    ∃ pz I K J ha1 l kij espKeymatIndex ha', hipGetParam ctx.inputMsg .puzzle = some pz ∧
      hipPuzzleI ctx.inputMsg (some pz) = .ok I ∧ hipPuzzleK ctx.inputMsg (some pz) = .ok K ∧
      puzzleSolves solver.hash ⟨I, ctx.inputMsg.hitReceiver, ctx.inputMsg.hitSender, J⟩ K ∧
      deriveKeys crypto.sha1 l ha1 ctx.inputMsg I J kij espKeymatIndex = .ok ha' ∧
      ctx'.hadbEntry = some ha' ∧ hipGetParam ctx'.outputMsg .solution = some 0 ∧
      hipSolutionK ctx'.outputMsg (some 0) = .ok K ∧ hipSolutionI ctx'.outputMsg (some 0) = .ok I ∧
      hipSolutionJ ctx'.outputMsg (some 0) = .ok J := by
  obtain ⟨ctx1, h1, h2⟩ := hipR1Handlers_eq_ok_zero h
  obtain ⟨c, c', ha1, hkeep, hc, hha1, hp⟩ := hipHandleR1_eq_ok_zero h1
  rw [if_neg hs] at hc
  obtain ⟨pz, I, K, J, ha0, hpz, hI, hK, hJ, -, rfl⟩ := r1SolvePuzzle_eq_some hc
  obtain rfl := Option.some.inj hha1
  obtain ⟨pz', l, kij, idx, ha', hd, hha', hpz', hsol, hsK, hsI, hsJ⟩ := r1I2_solution hha1 hp h2
  rw [hkeep.inputMsg] at hpz hI hK hJ hd hpz' hsK hsI
  obtain rfl := Option.some.inj (hpz.symm.trans hpz')
  exact ⟨pz, I, K, J, _, l, kij, idx, ha', hpz, hI, hK, (solver.solve_solves _ _ _ hJ :), hd, hha',
    hsol, hsK.trans hK, hsI.trans hI, hsJ (solver.length_solve _ _ _ hJ)⟩

/-- An R1 in I2_SENT on the HIP port without an R1_COUNTER goes straight to the keys. -/
theorem hipHandleR1_i2Sent_eq {ha : HipHa}
    (hp : produceKeyingMaterial crypto dh { ctx with outputMsg := r1I2Header ctx.inputMsg ha }
      ha.puzzleI ha.puzzleSolution = .ok (0, ctx'))
    (hport : ctx.dstPort = 0) (hcnt : hipGetParam ctx.inputMsg .r1Counter = none)
    (hha : ctx.hadbEntry = some ha) :
    hipHandleR1 solver crypto dh .i2Sent ctx = .ok (0, ctx') := by
  have hnat : r1NatMode ctx = .ok ctx := by simp [r1NatMode, hport]
  have hbirth : r1StoreBirthday ctx = .ok ctx := by simp [r1StoreBirthday, hcnt]
  simp only [hipHandleR1, hnat, hbirth, ok_bind, if_true, pure_eq_ok,
    HipPacketContext.readHa_some hha, hp]
  rfl

end Handlers

/-! ### A first R1 and a rotated R1 -/

/-- An R1 from `sender` to `receiver` whose PUZZLE has difficulty `K` and value `I`, with a
HIP_TRANSFORM, an ESP_TRANSFORM and a DIFFIE_HELLMAN, arriving at the host association `ha`. -/
def puzzleR1Ctx (sender receiver : Hit) (K : UInt8) (I : Bytes) (ha : HipHa) :
    HipPacketContext :=
  ⟨⟨hipR1, 2, 0, sender, receiver, [⟨.puzzle, [K, 0, 0, 0] ++ I⟩, ⟨.hipTransform, []⟩,
    ⟨.espTransform, []⟩, ⟨.diffieHellman, []⟩]⟩, ⟨0, 0, 0, 0, 0, []⟩, sender, receiver, 0, some ha, 0⟩

/-- A puzzle solver for tests whose hash is empty, so that any J solves any puzzle. -/
def zeroSolver : PuzzleSolver :=
  ⟨fun _ ↦ [], List.replicate puzzleLength 0, fun _ _ ↦ some (List.replicate puzzleLength 0),
    fun _ _ _ _ ↦ by simp [puzzleSolves, beNat], fun _ _ _ h ↦ by cases h; rfl⟩

set_option maxRecDepth 10000 in
/-- The first R1 of the responder 2, with puzzle value `3 3 3 3 3 3 3 3` and difficulty 10, in
I1_SENT. -/
theorem freshR1_solved : ∃ ctx', hipR1Handlers zeroSolver
      (suiteCrypto truncatingSha1 1 1 ⟨16, 20, 16, 20⟩) (fun _ ↦ some [7]) .i1Sent
      (puzzleR1Ctx 2 1 10 [3, 3, 3, 3, 3, 3, 3, 3] (crossingHa 1 2 .i1Sent)) = .ok (0, ctx') ∧
    ∃ pz I K J ha1 l kij espKeymatIndex ha',
      hipGetParam (puzzleR1Ctx 2 1 10 [3, 3, 3, 3, 3, 3, 3, 3] (crossingHa 1 2 .i1Sent)).inputMsg
        .puzzle = some pz ∧
      hipPuzzleI (puzzleR1Ctx 2 1 10 [3, 3, 3, 3, 3, 3, 3, 3] (crossingHa 1 2 .i1Sent)).inputMsg
        (some pz) = .ok I ∧
      hipPuzzleK (puzzleR1Ctx 2 1 10 [3, 3, 3, 3, 3, 3, 3, 3] (crossingHa 1 2 .i1Sent)).inputMsg
        (some pz) = .ok K ∧
      puzzleSolves zeroSolver.hash ⟨I, 1, 2, J⟩ K ∧
      deriveKeys truncatingSha1 l ha1
        (puzzleR1Ctx 2 1 10 [3, 3, 3, 3, 3, 3, 3, 3] (crossingHa 1 2 .i1Sent)).inputMsg I J kij
        espKeymatIndex = .ok ha' ∧
      ctx'.hadbEntry = some ha' ∧ hipGetParam ctx'.outputMsg .solution = some 0 ∧
      hipSolutionK ctx'.outputMsg (some 0) = .ok K ∧ hipSolutionI ctx'.outputMsg (some 0) = .ok I ∧
      hipSolutionJ ctx'.outputMsg (some 0) = .ok J :=
  have hrun : ∃ ctx', hipR1Handlers zeroSolver (suiteCrypto truncatingSha1 1 1 ⟨16, 20, 16, 20⟩)
      (fun _ ↦ some [7]) .i1Sent
      (puzzleR1Ctx 2 1 10 [3, 3, 3, 3, 3, 3, 3, 3] (crossingHa 1 2 .i1Sent)) = .ok (0, ctx') :=
    ⟨_, rfl⟩
  let ⟨_, h⟩ := hrun
  ⟨_, h, hipR1Handlers_fresh (by decide) h⟩

/-- The initiator 1 in I2_SENT after an R1 whose puzzle value was `1 1 1 1 1 1 1 1`, solved by
`2 2 2 2 2 2 2 2`; the responder 2 has since rotated its R1s, and its next R1 carries the puzzle
value `3 3 3 3 3 3 3 3`. The I2 answering it carries that new I with the old J, while the keys
were derived from the old I (`produce_keying_material` is passed the stored `puzzle_i`, which
the retransmission path keeps). -/
theorem rotatedR1_solution_mismatch (solver : PuzzleSolver) (sha1 : Sha1) (kij : Bytes) :
    ∃ ctx' ha', hipR1Handlers solver (suiteCrypto sha1 1 1 ⟨16, 20, 16, 20⟩) (fun _ ↦ some kij)
        .i2Sent (puzzleR1Ctx 2 1 10 [3, 3, 3, 3, 3, 3, 3, 3] { crossingHa 1 2 .i2Sent with
          puzzleI := [1, 1, 1, 1, 1, 1, 1, 1], puzzleSolution := [2, 2, 2, 2, 2, 2, 2, 2] }) =
        .ok (0, ctx') ∧ ctx'.hadbEntry = some ha' ∧ ha'.puzzleI = [1, 1, 1, 1, 1, 1, 1, 1] ∧
      hipSolutionI ctx'.outputMsg (some 0) = .ok [3, 3, 3, 3, 3, 3, 3, 3] ∧
      hipSolutionJ ctx'.outputMsg (some 0) = .ok [2, 2, 2, 2, 2, 2, 2, 2] := by
  set ha : HipHa := { crossingHa 1 2 .i2Sent with
    puzzleI := [1, 1, 1, 1, 1, 1, 1, 1], puzzleSolution := [2, 2, 2, 2, 2, 2, 2, 2] }
  set ctx := puzzleR1Ctx 2 1 10 [3, 3, 3, 3, 3, 3, 3, 3] ha
  set crypto := suiteCrypto sha1 1 1 ⟨16, 20, 16, 20⟩
  set ctxI2 := { ctx with outputMsg := r1I2Header ctx.inputMsg ha }
  have hacc : KeymatAccepts crypto (fun _ ↦ some kij) ctxI2.inputMsg 1 1 kij :=
    ⟨⟨1, rfl, rfl⟩, ⟨2, rfl, rfl⟩, ⟨3, rfl, rfl⟩⟩
  obtain ⟨ha', hd, -⟩ : ∃ ha', deriveKeys crypto.sha1 (crypto.keyLengths.ofSuite 1 1) ha
      ctxI2.inputMsg ha.puzzleI ha.puzzleSolution kij
      ((crypto.keyLengths.ofSuite 1 1).espDefaultKeymatIndex % 2 ^ 16) = .ok ha' ∧ _ :=
    deriveKeys_keymatK (show 144 % 20 ≠ 0 by decide) (show 144 < 5100 by decide)
  have hp : produceKeyingMaterial crypto (fun _ ↦ some kij) ctxI2 ha.puzzleI ha.puzzleSolution =
      .ok (0, { ctxI2 with hadbEntry := some ha' }) := by
    rw [produceKeyingMaterial_eq hacc (by decide) (by decide) rfl rfl, hd]
    rfl
  refine ⟨{ ctxI2 with
    hadbEntry := some ha'
    outputMsg := hipBuildParam ctxI2.outputMsg
      ⟨.solution, [10, 0, 0, 0] ++ [3, 3, 3, 3, 3, 3, 3, 3] ++ ha'.puzzleSolution⟩ },
    ha', ?_, rfl, ?_⟩
  · rw [hipR1Handlers, hipHandleR1_i2Sent_eq hp rfl rfl rfl]
    rfl
  · obtain ⟨keys, currentKeymatK, rfl⟩ := deriveKeys_frame hd
    exact ⟨rfl, rfl, rfl⟩

end Hipl.Hipd
