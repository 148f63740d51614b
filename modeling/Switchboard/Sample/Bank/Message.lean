import Switchboard.Message
import Switchboard.Text

namespace Switchboard.Sample

/-! Messages of a bank. -/

structure OpenAccount where
  id : String
  owner : String

def OpenAccount.type : MessageType OpenAccount where
  name := "bank.OpenAccount"
  decode := .record "OpenAccount" (mk <$> .required "id" .string <*> .required "owner" .string)
  encode m := .ok (.object [("id", .string m.id), ("owner", .string m.owner)])
  violations m := if Text.allBlank m.owner then [⟨"owner", "must not be blank"⟩] else []

structure Deposit where
  id : String
  amount : Int64

def Deposit.type : MessageType Deposit where
  name := "bank.Deposit"
  decode := .record "Deposit" (mk <$> .required "id" .string <*> .required "amount" .int64)
  encode m := .ok (.object [("amount", Json.int64 m.amount), ("id", .string m.id)])
  violations m := if m.amount ≤ 0 then [⟨"amount", "must be positive"⟩] else []

structure Withdraw where
  id : String
  amount : Int64

def Withdraw.type : MessageType Withdraw :=
  .plain "bank.Withdraw"
    (.record "Withdraw" (mk <$> .required "id" .string <*> .required "amount" .int64))
    fun m => .object [("amount", Json.int64 m.amount), ("id", .string m.id)]

structure DepositMany where
  id : String
  amounts : List Int64

def DepositMany.type : MessageType DepositMany :=
  .plain "bank.DepositMany"
    (.record "DepositMany" (mk <$> .required "id" .string <*> .required "amounts" (.list .int64)))
    fun m => .object [("amounts", .array (m.amounts.map Json.int64)), ("id", .string m.id)]

structure Addressed where
  id : String

def Addressed.named (name record : String) : MessageType Addressed :=
  .plain name (.record record (mk <$> .required "id" .string))
    fun m => .object [("id", .string m.id)]

def audit : MessageType Addressed := Addressed.named "bank.Audit" "Audit"

def freeze : MessageType Addressed := Addressed.named "bank.Freeze" "Freeze"

structure AccountOpened where
  owner : String

def AccountOpened.type : MessageType AccountOpened :=
  .plain "bank.AccountOpened" (.record "AccountOpened" (mk <$> .required "owner" .string))
    fun m => .object [("owner", .string m.owner)]

structure Amount where
  amount : Int64

def Amount.named (name record : String) : MessageType Amount :=
  .plain name (.record record (mk <$> .required "amount" .int64))
    fun m => .object [("amount", Json.int64 m.amount)]

def deposited : MessageType Amount := Amount.named "bank.Deposited" "Deposited"

def withdrawn : MessageType Amount := Amount.named "bank.Withdrawn" "Withdrawn"

structure InsufficientFunds where
  id : String
  balance : Int64
  requested : Int64

namespace InsufficientFunds

def type : MessageType InsufficientFunds :=
  .plain "bank.InsufficientFunds"
    (.record "InsufficientFunds"
      (mk
        <$> .required "id" .string
        <*> .required "balance" .int64
        <*> .required "requested" .int64))
    fun m => .object [
      ("balance", Json.int64 m.balance),
      ("id", .string m.id),
      ("requested", Json.int64 m.requested)]

def text (m : InsufficientFunds) : String :=
  "account " ++ m.id ++ " holds " ++ toString m.balance.toInt ++ ", cannot withdraw " ++
    toString m.requested.toInt

end InsufficientFunds

def bare (name record : String) : MessageType Unit :=
  .plain name (.unitRecord record) fun _ => .null

def accountAudited : MessageType Unit := bare "bank.AccountAudited" "AccountAudited"

end Switchboard.Sample
