import FxStrategyLab.Contracts

/-!
# From broker rows to a reconciliation

This file embeds the reading half of `h11_v4_gmo_actual_adapter.py`: the rows of
the three GET answers, their checks, and `_reconcile_rows`, which turns them
into a sanitized snapshot or into the unknown one.

A payload row is what an answer holds: an absent or unreadable field is `none`,
an absent or empty identifier is the empty list.  A bundle of positions carries
its own checks.
-/

namespace FxStrategyLab

def adapterError (label : String) : V4Error :=
  { exceptionClass := .adapter, message := label }

/-- The symbol of a row: the traded pair or any other. -/
inductive BrokerSymbol
  | usdJpy
  | other
deriving DecidableEq

/-- The settle type of a row in upper case; `unstated` is the empty text. -/
inductive SettleType
  | unstated
  | opening
  | closing
  | other
deriving DecidableEq

/-- A row of an answer to `latestExecutions`. -/
structure ExecutionPayload where
  symbol : BrokerSymbol
  clientOrderId : List Char
  positionId : List Char
  settleType : SettleType
  side : Option SignalDecision
  size : Option ℚ
  lossGain : Option ℚ
  fee : Option ℚ
  settledSwap : Option ℚ

/-- A row of an answer to `openPositions`. -/
structure PositionPayload where
  symbol : Option BrokerSymbol
  positionId : List Char
  side : Option SignalDecision
  size : Option ℚ
  price : Option ℚ

/-- A row of an answer to `activeOrders`. -/
structure ActiveOrderPayload where
  symbol : Option BrokerSymbol
  clientOrderId : List Char
  settleType : SettleType
  size : Option ℚ

structure ExecutionRow where
  clientOrderId : List Char
  positionId : List Char
  settleType : SettleType
  side : SignalDecision
  size : Nat
  netRealizedPnlJpy : ℚ

structure PositionRow where
  symbol : BrokerSymbol
  positionId : List Char
  side : SignalDecision
  size : Nat
  price : ℚ

structure ActiveOrderRow where
  symbol : BrokerSymbol
  clientOrderId : List Char
  settleType : SettleType
  size : Nat

def requiredString (value : List Char) : Except V4Error (List Char) :=
  if value = [] then .error (adapterError "V4_GMO_REQUIRED_FIELD_MISSING")
  else .ok value

/-- A field that must be there, source `_required_decimal` and the lookups. -/
def requiredField {α : Type} (value : Option α) : Except V4Error α :=
  match value with
  | none => .error (adapterError "V4_GMO_REQUIRED_FIELD_MISSING")
  | some a => .ok a

/-- Source `_required_choice` for the side. -/
def requiredSide (value : Option SignalDecision) : Except V4Error SignalDecision := do
  let side ← requiredField value
  if side.Directional then return side
  else throw (adapterError "V4_GMO_ENUM_FIELD_INVALID")

/-- Source `_required_choice` for the settle type of an execution. -/
def requiredSettleType (value : SettleType) : Except V4Error SettleType :=
  match value with
  | .unstated => .error (adapterError "V4_GMO_REQUIRED_FIELD_MISSING")
  | .other => .error (adapterError "V4_GMO_ENUM_FIELD_INVALID")
  | settleType => .ok settleType

def positiveInt (value : Option ℚ) : Except V4Error Nat := do
  let q ← requiredField value
  if q ≤ 0 ∨ q.den ≠ 1 then throw (adapterError "V4_GMO_SIZE_FIELD_INVALID")
  else return q.num.toNat

/-- One row of `_parse_executions`: another symbol, or history without a client
order id, is skipped. -/
def parseExecution (row : ExecutionPayload) : Except V4Error (Option ExecutionRow) :=
  if row.symbol ≠ .usdJpy then .ok none
  else if row.clientOrderId = [] then .ok none
  else do
    let positionId ← requiredString row.positionId
    let settleType ← requiredSettleType row.settleType
    let side ← requiredSide row.side
    let size ← positiveInt row.size
    let netRealizedPnlJpy ←
      if settleType = .closing then do
        let lossGain ← requiredField row.lossGain
        let fee ← requiredField row.fee
        let settledSwap ← requiredField row.settledSwap
        pure (lossGain + fee + settledSwap)
      else pure 0
    return some
      { clientOrderId := row.clientOrderId
        positionId
        settleType
        side
        size
        netRealizedPnlJpy }

def parseExecutions (data : List ExecutionPayload) : Except V4Error (List ExecutionRow) := do
  let rows ← data.mapM parseExecution
  return rows.filterMap id

/-- One row of `_parse_positions`. -/
def parsePosition (row : PositionPayload) : Except V4Error PositionRow := do
  let price ← requiredField row.price
  if price ≤ 0 then throw (adapterError "V4_GMO_POSITION_PRICE_INVALID")
  let symbol ← requiredField row.symbol
  let positionId ← requiredString row.positionId
  let side ← requiredSide row.side
  let size ← positiveInt row.size
  return { symbol, positionId, side, size, price }

def parsePositions (data : List PositionPayload) : Except V4Error (List PositionRow) :=
  data.mapM parsePosition

/-- One row of `_parse_active_orders`. -/
def parseActiveOrder (row : ActiveOrderPayload) : Except V4Error ActiveOrderRow := do
  let symbol ← requiredField row.symbol
  let clientOrderId ← requiredString row.clientOrderId
  let size ← positiveInt row.size
  return { symbol, clientOrderId, settleType := row.settleType, size }

def parseActiveOrders (data : List ActiveOrderPayload) :
    Except V4Error (List ActiveOrderRow) :=
  data.mapM parseActiveOrder

/-- The prefix of the ids of an action; the three cancels share the prefix of
the order that they cancel. -/
def clientOrderPrefix : V4GmoAction → List Char
  | .marketEntry | .cancelEntryRemainder => ['H', '1', '1', 'V', '4', 'E']
  | .exactSizeOcoProtection | .cancelMismatchedProtection
  | .cancelExactProtectionForTimeExit => ['H', '1', '1', 'V', '4', 'P']
  | .positionSpecificEmergencyExit => ['H', '1', '1', 'V', '4', 'X']
  | .positionSpecificTimeExit => ['H', '1', '1', 'V', '4', 'T']

variable (cycleRef : Digest)

/-- Source `v4_gmo_client_order_id`, for a reference that passed its check. -/
def v4GmoClientOrderId (action : V4GmoAction) : List Char :=
  clientOrderPrefix action ++ cycleRef.take 30

structure PositionPart where
  positionId : List Char
  size : Nat
deriving DecidableEq

/-- Source `V4GmoPositionBundle`; the fields carry the constructor's checks. -/
structure V4GmoPositionBundle where
  parts : List PositionPart
  count_bounds : parts ≠ [] ∧ parts.length ≤ 10
  parts_valid : ∀ part ∈ parts, part.positionId ≠ [] ∧ 0 < part.size
deriving DecidableEq

namespace V4GmoPositionBundle

def totalSize (bundle : V4GmoPositionBundle) : Nat :=
  (bundle.parts.map PositionPart.size).sum

/-- The checks of `V4GmoPositionBundle.__post_init__`. -/
def ofParts (parts : List PositionPart) : Except V4Error V4GmoPositionBundle :=
  if hcount : parts ≠ [] ∧ parts.length ≤ 10 then
    if hvalid : ∀ part ∈ parts, part.positionId ≠ [] ∧ 0 < part.size then
      .ok ⟨parts, hcount, hvalid⟩
    else .error (adapterError "V4_GMO_POSITION_BUNDLE_INVALID")
  else .error (adapterError "V4_GMO_POSITION_BUNDLE_SIZE_INVALID")

end V4GmoPositionBundle

/-- Source `V4GmoActualReconciliation`, without its three constant fields. -/
structure V4GmoActualReconciliation where
  snapshot : V4GmoBrokerSnapshot
  positionBundle : Option V4GmoPositionBundle := none
  averageFillPrice : Option ℚ := none
  closedSize : Nat := 0
  realizedPnlJpyInternal : Option Int := none
  accountPositionCount : Nat := 0
  accountActiveOrderCount : Nat := 0
  unownedPositionCount : Nat := 0
  unownedActiveOrderCount : Nat := 0
deriving DecidableEq

namespace V4GmoActualReconciliation

def positionBundleTotal (r : V4GmoActualReconciliation) : Option Nat :=
  r.positionBundle.map V4GmoPositionBundle.totalSize

/-- The text that the binding digest hashes. -/
def canonicalJson (r : V4GmoActualReconciliation) : CanonicalText :=
  [("account_active_order_count", .integer r.accountActiveOrderCount),
    ("account_position_count", .integer r.accountPositionCount),
    ("average_fill_price", .ofOption .decimal r.averageFillPrice),
    ("closed_size", .integer r.closedSize),
    ("entry_status", .text r.snapshot.entryStatus.value),
    ("filled_size", .integer r.snapshot.filledSize),
    ("fresh", .boolean r.snapshot.fresh),
    ("pending_entry_size", .integer r.snapshot.pendingEntrySize),
    ("position_count", .integer r.snapshot.positionCount),
    ("position_side",
      .ofOption (fun side : SignalDecision => .text side.value) r.snapshot.positionSide)] ++
  ((r.positionBundle.elim [] V4GmoPositionBundle.parts).flatMap fun part =>
    [("positions.position_id", .digest part.positionId),
      ("positions.size", .integer part.size)]) ++
  [("protection_size", .integer r.snapshot.protectionSize),
    ("protection_status", .text r.snapshot.protectionStatus.value),
    ("realized_pnl_jpy_internal", .ofOption .integer r.realizedPnlJpyInternal),
    ("result_known", .boolean r.snapshot.resultKnown),
    ("unowned_active_order_count", .integer r.unownedActiveOrderCount),
    ("unowned_position_count", .integer r.unownedPositionCount)]

def bindingDigestInternal (sha : Sha256) (r : V4GmoActualReconciliation) : Digest :=
  sha.prefixed r.canonicalJson

/-- Source `_unknown_reconciliation`. -/
def unknown : V4GmoActualReconciliation where
  snapshot := .unknown

end V4GmoActualReconciliation

def sizeOfPosition (rows : List ExecutionRow) (positionId : List Char) : Nat :=
  ((rows.filter fun row => row.positionId = positionId).map ExecutionRow.size).sum

def ownedOpenRows (executions : List ExecutionRow) :
    List ExecutionRow :=
  executions.filter fun row =>
    row.clientOrderId = v4GmoClientOrderId cycleRef .marketEntry &&
      row.settleType = .opening

/-- The client order ids whose executions settle positions of the cycle. -/
def closingClientIds : List (List Char) :=
  [v4GmoClientOrderId cycleRef .exactSizeOcoProtection,
    v4GmoClientOrderId cycleRef .positionSpecificEmergencyExit,
    v4GmoClientOrderId cycleRef .positionSpecificTimeExit]

def permittedClientIds : List (List Char) :=
  v4GmoClientOrderId cycleRef .marketEntry :: closingClientIds cycleRef

/-- The executions that settled positions of the cycle. -/
def ownedCloseRows (executions : List ExecutionRow) :
    List ExecutionRow :=
  executions.filter fun row =>
    row.settleType = .closing && decide (row.clientOrderId ∈ closingClientIds cycleRef)

def activeOrdersOf (action : V4GmoAction)
    (activeOrders : List ActiveOrderRow) : List ActiveOrderRow :=
  activeOrders.filter fun row => row.clientOrderId = v4GmoClientOrderId cycleRef action

/-- The protection that the active protection orders give a filled size. -/
def protectionStatusOf (protectionSize filledSize : Nat) : V4GmoProtectionStatus :=
  if protectionSize = filledSize ∧ 0 < filledSize then .exactMatch
  else if protectionSize < filledSize then .undersized
  else .oversized

def entryStatusOf (entryActive : Bool) (filledSize : Nat) : V4GmoEntryStatus :=
  if entryActive then
    if 0 < filledSize then .partially else .pending
  else if 0 < filledSize then .filled
  else .none

/-- Source `average_fill_price`. -/
def averageFillPriceOf (positions : List PositionRow) (filledSize : Nat) : Option ℚ :=
  if filledSize = 0 then none
  else some ((positions.map fun row => row.price * (row.size : ℚ)).sum / filledSize)

/-- Source `realized_pnl_jpy_internal`: the sum, rounded down. -/
def realizedPnlOf (closeRows : List ExecutionRow) : Option Int :=
  if closeRows = [] then none
  else some ⌊(closeRows.map ExecutionRow.netRealizedPnlJpy).sum⌋

/-- The rows belong to this cycle and are consistent with its entry: the first
half of the checks of `_reconcile_rows`, up to the ownership of the account. -/
def openRowsValid (side : SignalDecision) (requestedSize : Nat)
    (openRows : List ExecutionRow) : Bool :=
  openRows.all (fun row => row.side = side) &&
    decide ((openRows.map ExecutionRow.size).sum ≤ requestedSize)

def unownedPositions (openRows : List ExecutionRow) (positions : List PositionRow) :
    List PositionRow :=
  positions.filter fun row =>
    !(row.symbol = .usdJpy && openRows.any fun open_ => open_.positionId = row.positionId)

def unownedActiveOrders (activeOrders : List ActiveOrderRow) :
    List ActiveOrderRow :=
  activeOrders.filter fun row =>
    !(row.symbol = .usdJpy && decide (row.clientOrderId ∈ permittedClientIds cycleRef))

/-- The open positions are a bundle of the cycle's size. -/
def positionsValid (side : SignalDecision) (requestedSize : Nat)
    (positions : List PositionRow) : Bool :=
  positions.all (fun row => row.side = side) &&
    decide (positions.length ≤ 10) &&
    decide ((positions.map PositionRow.size).sum ≤ requestedSize)

/-- The settling executions close what the cycle opened and no more. -/
def closeRowsValid (side : SignalDecision) (requestedSize : Nat)
    (openRows closeRows : List ExecutionRow) : Bool :=
  closeRows.all (fun row =>
      openRows.any (fun open_ => open_.positionId = row.positionId) &&
        decide (row.side = side.settlementSide)) &&
    closeRows.all (fun row =>
      decide (sizeOfPosition closeRows row.positionId ≤
        sizeOfPosition openRows row.positionId)) &&
    decide ((closeRows.map ExecutionRow.size).sum ≤ requestedSize)

/-- The active orders of the cycle have the settle types of their actions, and
the protection orders one common size. -/
def activeOrdersValid (entry protection : List ActiveOrderRow) : Bool :=
  entry.all (fun row => row.settleType = .unstated || row.settleType = .opening) &&
    protection.all (fun row => row.settleType = .unstated || row.settleType = .closing) &&
    protection.all (fun row => protection.all fun other => row.size = other.size)

def reconcileRows (side : SignalDecision) (requestedSize : Nat)
    (executions : List ExecutionRow) (positions : List PositionRow)
    (activeOrders : List ActiveOrderRow) : Except V4Error V4GmoActualReconciliation :=
  let openRows := ownedOpenRows cycleRef executions
  let closeRows := ownedCloseRows cycleRef executions
  let entry := activeOrdersOf cycleRef .marketEntry activeOrders
  let protection := activeOrdersOf cycleRef .exactSizeOcoProtection activeOrders
  let filledSize := (positions.map PositionRow.size).sum
  if openRowsValid side requestedSize openRows = false then .ok .unknown
  else if unownedPositions openRows positions ≠ [] ∨
      unownedActiveOrders cycleRef activeOrders ≠ [] then
    .ok
      { snapshot := .unknown
        accountPositionCount := positions.length
        accountActiveOrderCount := activeOrders.length
        unownedPositionCount := (unownedPositions openRows positions).length
        unownedActiveOrderCount := (unownedActiveOrders cycleRef activeOrders).length }
  else if positionsValid side requestedSize positions = false ∨
      closeRowsValid side requestedSize openRows closeRows = false ∨
      activeOrdersValid entry protection = false then
    .ok .unknown
  else do
    let bundle ←
      if positions = [] then pure none
      else do
        let bundle ← V4GmoPositionBundle.ofParts
          (positions.map fun row => ⟨row.positionId, row.size⟩)
        pure (some bundle)
    let protectionSize := (protection.head?.map ActiveOrderRow.size).getD 0
    return {
      snapshot :=
        { fresh := true
          resultKnown := true
          positionCount := if positions = [] then 0 else 1
          positionSide := if positions = [] then none else some side
          filledSize
          pendingEntrySize := if entry = [] then 0 else requestedSize - filledSize
          protectionSize
          entryStatus := entryStatusOf (!entry.isEmpty) filledSize
          protectionStatus :=
            if protection = [] then .none
            else protectionStatusOf protectionSize filledSize }
      positionBundle := bundle
      averageFillPrice := averageFillPriceOf positions filledSize
      closedSize := (closeRows.map ExecutionRow.size).sum
      realizedPnlJpyInternal := realizedPnlOf closeRows
      accountPositionCount := positions.length
      accountActiveOrderCount := activeOrders.length }

end FxStrategyLab
