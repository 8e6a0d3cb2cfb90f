import FxStrategyLab.Adapter.Rows
import FxStrategyLab.Protection

/-!
# Private requests and their contracts

This file embeds the writing half of `h11_v4_gmo_actual_adapter.py` and the
request contracts of `h11_v4_gmo_actual_transport.py`: the six permitted routes,
the checks that a request meets before it can exist, the request of each action,
and the order in which one transport accepts the POSTs of its cycle.
-/

namespace FxStrategyLab

def transportError (label : String) : V4Error :=
  { exceptionClass := .transport, message := label }

/-- Source `V4GmoPrivateRequest`: a permitted route with its variable fields. -/
inductive V4GmoPrivateRequest
  | latestExecutions
  | openPositions
  | activeOrders
  | order (side : SignalDecision) (size : Nat) (clientOrderId : List Char)
  | cancelOrders (clientOrderId : List Char)
  | closeOrderOco (side : SignalDecision) (clientOrderId : List Char)
      (limitPrice stopPrice : ℚ) (settlePosition : List PositionPart)
  | closeOrderMarket (side : SignalDecision) (clientOrderId : List Char)
      (settlePosition : List PositionPart)
deriving DecidableEq

/-- The three routes that are POSTed to. -/
inductive PostPath
  | order
  | cancelOrders
  | closeOrder
deriving DecidableEq

namespace V4GmoPrivateRequest

def post? : V4GmoPrivateRequest → Option (PostPath × List Char)
  | order _ _ clientOrderId => some (.order, clientOrderId)
  | cancelOrders clientOrderId => some (.cancelOrders, clientOrderId)
  | closeOrderOco _ clientOrderId _ _ _ | closeOrderMarket _ clientOrderId _ =>
      some (.closeOrder, clientOrderId)
  | _ => none

def settleText (settlePosition : List PositionPart) : CanonicalText :=
  settlePosition.flatMap fun part =>
    [("settlePosition.positionId", .digest part.positionId),
      ("settlePosition.size", .integer part.size)]

/-- The text of `v4_gmo_private_request_binding_digest`. -/
def canonicalJson : V4GmoPrivateRequest → CanonicalText
  | latestExecutions => [("transport_path", .text "/private/v1/latestExecutions")]
  | openPositions => [("transport_path", .text "/private/v1/openPositions")]
  | activeOrders => [("transport_path", .text "/private/v1/activeOrders")]
  | order side size clientOrderId =>
      [("clientOrderId", .digest clientOrderId), ("executionType", .text "MARKET"),
        ("side", .text side.value), ("size", .integer size),
        ("transport_path", .text "/private/v1/order")]
  | cancelOrders clientOrderId =>
      [("clientOrderIds", .digest clientOrderId),
        ("transport_path", .text "/private/v1/cancelOrders")]
  | closeOrderOco side clientOrderId limitPrice stopPrice settlePosition =>
      [("clientOrderId", .digest clientOrderId), ("executionType", .text "OCO"),
        ("limitPrice", .decimal limitPrice)] ++ settleText settlePosition ++
      [("side", .text side.value), ("stopPrice", .decimal stopPrice),
        ("transport_path", .text "/private/v1/closeOrder")]
  | closeOrderMarket side clientOrderId settlePosition =>
      [("clientOrderId", .digest clientOrderId), ("executionType", .text "MARKET")] ++
      settleText settlePosition ++
      [("side", .text side.value), ("transport_path", .text "/private/v1/closeOrder")]

/-- Source `v4_gmo_private_request_binding_digest`. -/
def bindingDigest (sha : Sha256) (request : V4GmoPrivateRequest) : Digest :=
  sha.prefixed request.canonicalJson

end V4GmoPrivateRequest

def orderLetters : List Char :=
  ['E', 'P', 'X', 'T']

def validClientOrderId (clientOrderId : List Char) (letters : List Char) : Bool :=
  decide (clientOrderId.take 5 = ['H', '1', '1', 'V', '4'] ∧
    clientOrderId.length = 36 ∧ (∀ c ∈ clientOrderId.drop 6, c ∈ hexDigits) ∧
    ∃ letter ∈ letters, clientOrderId.drop 5 = letter :: clientOrderId.drop 6)

/-- Source `_number_if_numeric` and the check that the number is positive. -/
def positiveNumericId (positionId : List Char) : Bool :=
  positionId.all Char.isDigit && positionId.any (fun c => c ≠ '0')

def validateSettlePositions (settlePosition : List PositionPart) : Except V4Error Unit :=
  if ¬(1 ≤ settlePosition.length ∧ settlePosition.length ≤ 10) then
    .error (transportError "V4_GMO_SETTLE_POSITION_LIST_INVALID")
  else if settlePosition.all (fun part => positiveNumericId part.positionId) = false then
    .error (transportError "V4_GMO_SETTLE_POSITION_ID_INVALID")
  else if settlePosition.all (fun part => decide (0 < part.size)) = false then
    .error (transportError "V4_GMO_DECIMAL_FIELD_INVALID")
  else if 1000 < (settlePosition.map PositionPart.size).sum then
    .error (transportError "V4_GMO_SETTLE_POSITION_TOTAL_INVALID")
  else .ok ()

def validateCommonOrderFields (side : SignalDecision) (clientOrderId : List Char)
    (letters : List Char) : Except V4Error Unit :=
  if ¬side.Directional then .error (transportError "V4_GMO_ORDER_SCOPE_INVALID")
  else if validClientOrderId clientOrderId letters = false then
    .error (transportError "V4_GMO_CLIENT_ORDER_ID_INVALID")
  else .ok ()

def validateRequestContract : V4GmoPrivateRequest → Except V4Error Unit
  | .order side size clientOrderId => do
      validateCommonOrderFields side clientOrderId ['E']
      if size = 0 then throw (transportError "V4_GMO_DECIMAL_FIELD_INVALID")
      if 1000 < size then throw (transportError "V4_GMO_ORDER_SIZE_INVALID")
  | .cancelOrders clientOrderId =>
      if validClientOrderId clientOrderId ['E', 'P'] then .ok ()
      else .error (transportError "V4_GMO_CANCEL_CLIENT_ID_INVALID")
  | .closeOrderOco side clientOrderId limitPrice stopPrice settlePosition => do
      validateCommonOrderFields side clientOrderId ['P']
      if limitPrice ≤ 0 ∨ stopPrice ≤ 0 then
        throw (transportError "V4_GMO_DECIMAL_FIELD_INVALID")
      validateSettlePositions settlePosition
  | .closeOrderMarket side clientOrderId settlePosition => do
      validateCommonOrderFields side clientOrderId ['X', 'T']
      validateSettlePositions settlePosition
  | _ => .ok ()

/-- Source `V4GmoPrivateRequest(...)`: a request that breaks its contract cannot
be built. -/
def postRequest (request : V4GmoPrivateRequest) : Except V4Error V4GmoPrivateRequest := do
  validateRequestContract request
  return request

def validCancelState (action : V4GmoAction) (requestedSize : Nat)
    (snapshot : V4GmoBrokerSnapshot) : Bool :=
  match action with
  | .cancelEntryRemainder =>
      decide ((snapshot.entryStatus = .pending ∨ snapshot.entryStatus = .partially) ∧
        snapshot.pendingEntrySize = requestedSize ∧ 0 < snapshot.pendingEntrySize ∧
        snapshot.positionCount ≤ 1)
  | .cancelMismatchedProtection =>
      decide (snapshot.positionCount = 1 ∧ 0 < snapshot.filledSize ∧
        snapshot.protectionSize = requestedSize ∧
        (snapshot.protectionStatus = .undersized ∨
          snapshot.protectionStatus = .oversized))
  | _ =>
      decide (snapshot.positionCount = 1 ∧ 0 < snapshot.filledSize ∧
        snapshot.protectionSize = requestedSize ∧
        snapshot.protectionStatus = .exactMatch)

variable (plan : V4GmoActionPlan)

def buildCancelRequest
    (reconciliation : Option V4GmoActualReconciliation) :
    Except V4Error V4GmoPrivateRequest :=
  match reconciliation with
  | none => .error (adapterError "V4_GMO_AUTHORITATIVE_RECONCILIATION_REQUIRED")
  | some r =>
      if r.snapshot.fresh = false then
        .error (adapterError "V4_GMO_AUTHORITATIVE_RECONCILIATION_REQUIRED")
      else if r.snapshot.resultKnown = false ∨
          ¬(r.snapshot.positionSide = none ∨ r.snapshot.positionSide = some plan.side) then
        .error (adapterError "V4_GMO_RECONCILIATION_MISMATCH")
      else if validCancelState plan.action plan.requestedSize r.snapshot = false then
        .error (adapterError "V4_GMO_CANCEL_STATE_MISMATCH")
      else postRequest (.cancelOrders (v4GmoClientOrderId plan.cycleRef plan.action))

def protectionPlanMatches (snapshot : V4GmoBrokerSnapshot)
    (protectionPlan : V4GmoExactProtectionPlan) : Bool :=
  decide (snapshot.protectionSize = 0 ∧ snapshot.protectionStatus = .none ∧
    protectionPlan.positionSide = plan.side ∧
    protectionPlan.settlementSide = plan.side.settlementSide ∧
    protectionPlan.exactFilledSize = plan.requestedSize ∧
    some protectionPlan.contractHash = plan.protectionContractHash)

/-- Build the settlement of a position bundle: the OCO or a market close. -/
def buildSettlementRequest
    (reconciliation : Option V4GmoActualReconciliation)
    (protectionPlan : Option V4GmoExactProtectionPlan) :
    Except V4Error V4GmoPrivateRequest :=
  match reconciliation with
  | none => .error (adapterError "V4_GMO_POSITION_RECONCILIATION_REQUIRED")
  | some r =>
      match r.positionBundle with
      | none => .error (adapterError "V4_GMO_POSITION_RECONCILIATION_REQUIRED")
      | some bundle =>
          let clientOrderId := v4GmoClientOrderId plan.cycleRef plan.action
          if r.snapshot.resultKnown = false then
            .error (adapterError "V4_GMO_RECONCILIATION_UNKNOWN")
          else if ¬(r.snapshot.fresh = true ∧ r.snapshot.positionCount = 1 ∧
              r.snapshot.positionSide = some plan.side ∧
              r.snapshot.entryStatus = .filled ∧ r.snapshot.pendingEntrySize = 0 ∧
              r.snapshot.filledSize = plan.requestedSize) then
            .error (adapterError "V4_GMO_POSITION_STATE_MISMATCH")
          else if bundle.totalSize ≠ plan.requestedSize then
            .error (adapterError "V4_GMO_POSITION_SIZE_MISMATCH")
          else if plan.action = .exactSizeOcoProtection then
            match protectionPlan with
            | none => .error (adapterError "V4_GMO_PROTECTION_PLAN_REQUIRED")
            | some protection =>
                if protectionPlanMatches plan r.snapshot protection = false then
                  .error (adapterError "V4_GMO_PROTECTION_PLAN_MISMATCH")
                else
                  postRequest (.closeOrderOco plan.side.settlementSide clientOrderId
                    protection.takeProfitPrice protection.stopLossPrice bundle.parts)
          else if ¬(r.snapshot.protectionSize = 0 ∧
              r.snapshot.protectionStatus = .none) then
            .error (adapterError "V4_GMO_EMERGENCY_EXIT_STATE_MISMATCH")
          else
            postRequest
              (.closeOrderMarket plan.side.settlementSide clientOrderId bundle.parts)

def buildActionRequest
    (reconciliation : Option V4GmoActualReconciliation)
    (protectionPlan : Option V4GmoExactProtectionPlan) :
    Except V4Error V4GmoPrivateRequest :=
  match plan.action with
  | .marketEntry =>
      postRequest (.order plan.side plan.requestedSize
        (v4GmoClientOrderId plan.cycleRef plan.action))
  | .cancelEntryRemainder | .cancelMismatchedProtection
  | .cancelExactProtectionForTimeExit => buildCancelRequest plan reconciliation
  | _ => buildSettlementRequest plan reconciliation protectionPlan

abbrev PostKey := PostPath × List Char

instance lawfulBEqPostKey : LawfulBEq PostKey :=
  inferInstance

/-- Source `_post_key`: the client order id without its common prefix. -/
def postKeyOf (path : PostPath) (clientOrderId : List Char) : PostKey :=
  (path, clientOrderId.drop 5)

def requestMatchesCycle (key : PostKey) (cycleRef : Digest) : Bool :=
  decide (key.2.length = 31 ∧ key.2.tail = cycleRef.take 30 ∧
    ∃ letter ∈ orderLetters, key.2.head? = some letter)

def entryPostKey (cycleRef : Digest) : PostKey :=
  (.order, 'E' :: cycleRef.take 30)

def protectionPostKey (cycleRef : Digest) : PostKey :=
  (.closeOrder, 'P' :: cycleRef.take 30)

/-- The order in which the POSTs of a cycle are accepted, and the actions that a
POST may stand for: the branches of `_require_bound_post_once`. -/
def postSequence (cycleRef : Digest) (postKeys : List PostKey) (closeAttempted : Bool)
    (key : PostKey) : Option (List V4GmoAction) :=
  let entered := decide (entryPostKey cycleRef ∈ postKeys)
  match key.1, key.2.head? with
  | .order, some 'E' => if postKeys = [] then some [.marketEntry] else none
  | _, some 'E' => if entered then some [.cancelEntryRemainder] else none
  | .closeOrder, some 'P' => if entered then some [.exactSizeOcoProtection] else none
  | .cancelOrders, some 'P' =>
      if entered && decide (protectionPostKey cycleRef ∈ postKeys) then
        some [.cancelMismatchedProtection, .cancelExactProtectionForTimeExit]
      else none
  | _, some 'P' =>
      if entered then some [.cancelMismatchedProtection, .cancelExactProtectionForTimeExit]
      else none
  | _, some 'X' =>
      if entered && !closeAttempted then some [.positionSpecificEmergencyExit] else none
  | _, some 'T' =>
      if entered && !closeAttempted then some [.positionSpecificTimeExit] else none
  | _, _ => none

end FxStrategyLab
