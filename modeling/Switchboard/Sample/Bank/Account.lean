import Switchboard.Aggregate.Model
import Switchboard.Mismatch
import Switchboard.Sample.Bank.Message

namespace Switchboard.Sample

/-! Accounts of a bank. -/

/-- An integer held within 64 bits. -/
def saturated (n : Int) : Int64 := .ofInt (max Int64.minValue.toInt (min Int64.maxValue.toInt n))

structure Account where
  owner : String
  balance : Int64
  isOpen : Bool

namespace Account

def initial : Account := ⟨"", 0, false⟩

def encode (a : Account) : Json :=
  .object [("owner", .string a.owner), ("balance", Json.int64 a.balance), ("open", .bool a.isOpen)]

def decode : Decoder Account :=
  .record "Account"
    (mk <$> .required "owner" .string <*> .required "balance" .int64 <*> .required "open" .bool)

def shown : ValueMismatch.Shown Account := ⟨fun a => .ok a.encode.sorted, initial⟩

def giving (events : Except EncodeError (List EventMessage)) : Verdict :=
  .given (HandlerResult.ofEvents events)

def refusing (mismatch : ValueMismatch) : Verdict :=
  .given (.error (.reject ValueMismatch.type ValueMismatch.text mismatch))

def openAccount (a : Account) (m : OpenAccount) (context : HandlerContext) : Verdict :=
  if a.isOpen then refusing (.expectedDefault .string a.owner m.owner context.version)
  else giving (AccountOpened.type.oneEvent ⟨m.owner⟩)

def withdraw (a : Account) (m : Withdraw) (context : HandlerContext) : Verdict :=
  if a.balance < m.amount then
    .given (.error (.reject InsufficientFunds.type InsufficientFunds.text
      ⟨context.aggregateId, a.balance, m.amount⟩))
  else giving (withdrawn.oneEvent ⟨m.amount⟩)

def model : AggregateModel Account :=
  (AggregateModel.empty "account" initial)
    |>.handles OpenAccount.type openAccount
    |>.handles Deposit.type (fun _ m _ => giving (deposited.oneEvent ⟨m.amount⟩))
    |>.handles DepositMany.type (fun _ m _ => giving (deposited.eventList (m.amounts.map .mk)))
    |>.handles Withdraw.type withdraw
    |>.handles audit (fun _ _ _ => giving (accountAudited.oneEvent ()))
    |>.handles freeze (fun _ _ _ => .given (.error (.failed "Error" "ledger unavailable")))
    |>.applies AccountOpened.type (fun a m => { a with owner := m.owner, isOpen := true })
    |>.applies deposited (fun a m =>
      { a with balance := saturated (a.balance.toInt + m.amount.toInt) })
    |>.applies withdrawn (fun a m =>
      { a with balance := saturated (a.balance.toInt - m.amount.toInt) })
    |>.withNeutral accountAudited.name

end Account

/-- An entity whose model applies no event at all. -/
structure Unwired where
  touched : Bool

namespace Unwired

def initial : Unwired := ⟨false⟩

def encode (u : Unwired) : Json := .object [("touched", .bool u.touched)]

def decode : Decoder Unwired := .record "Unwired" (mk <$> .required "touched" .bool)

def model : AggregateModel Unwired :=
  (AggregateModel.empty "unwired" initial)
    |>.handles audit (fun _ _ _ => Account.giving (accountAudited.oneEvent ()))

end Unwired

end Switchboard.Sample
