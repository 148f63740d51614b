import Switchboard.Signal.Basic

namespace Switchboard

structure EntityKey where
  tenant : Option TenantId
  type : String
  id : String
deriving DecidableEq, Repr

namespace EntityKey

def ofType (type id : String) : EntityKey := ⟨none, type, id⟩

def withTenant (key : EntityKey) (tenant : TenantId) : EntityKey := { key with tenant }

def text (key : EntityKey) : String :=
  let shared := key.type ++ "/" ++ key.id
  match key.tenant with
  | some tenant => tenant.name ++ "/" ++ shared
  | none => shared

def encode (key : EntityKey) : Json :=
  .object [
    ("entity_type", .string key.type),
    ("id", .string key.id),
    ("tenant", .option TenantId.encode key.tenant)]

def decode : Decoder EntityKey :=
  .record "EntityKey" (mk
    <$> .optional "tenant" TenantId.decode
    <*> .required "entity_type" .string
    <*> .required "id" .string)

end EntityKey

end Switchboard
