import Switchboard.Entity.Storage
import Switchboard.FileSystem
import Switchboard.Json.Document

namespace Switchboard

/-! Records in files, one JSON text for each entity.

The record of an entity is the file `entities/<tenant>/<type>/<id>.json` below a base
directory; entities without a tenant are under `_shared`. A record is written to a file
beside its own, which then takes the place of the old one. -/

structure RecordFiles (ρ : Type) where
  base : List String
  encode : ρ → Json
  decode : Decoder ρ

def nameFault (name : String) : Option String :=
  if name.isEmpty then some "empty component"
  else if name = "." ∨ name = ".." then some "relative path component"
  else if name.toList.any (fun c => c = '/' ∨ c = '\\' ∨ c = '\x00') then
    some "path separator in component"
  else none

namespace EntityKey

def sharedDirectory : String := "_shared"

def directoryOfTenant (key : EntityKey) : String :=
  match key.tenant with
  | some tenant => tenant.name
  | none => sharedDirectory

def directory (key : EntityKey) : List String := ["entities", key.directoryOfTenant, key.type]

def fault (key : EntityKey) : Option String :=
  [key.directoryOfTenant, key.type, key.id].findSome? nameFault

end EntityKey

namespace RecordFiles

def recordPath (r : RecordFiles ρ) (key : EntityKey) : Except StorageError (List String) :=
  match key.fault with
  | some reason => .error (.invalidKey key reason)
  | none => .ok (r.base ++ key.directory ++ [key.id ++ ".json"])

def temporaryPath (r : RecordFiles ρ) (key : EntityKey) : List String :=
  r.base ++ key.directory ++ [key.id ++ ".json.tmp"]

def load (r : RecordFiles ρ) (key : EntityKey) (fs : FileSystem) :
    Except StorageError (Option ρ) :=
  match r.recordPath key with
  | .error error => .error error
  | .ok path =>
      match fs.read path with
      | .error .notFound => .ok none
      | .error error => .error (.io error.message)
      | .ok text =>
          match r.decode.ofText text with
          | .ok record => .ok (some record)
          | .error error => .error (.serialization error.message)

/-- Writes a record. The step that fails says why; what was done before it stays. -/
def store (r : RecordFiles ρ) (key : EntityKey) (record : ρ) (fs : FileSystem) :
    Except StorageError Unit × FileSystem :=
  match r.recordPath key with
  | .error error => (.error error, fs)
  | .ok path =>
      match fs.makeDirectories [] path.dropLast with
      | (.error error, fs) => (.error (.io error.message), fs)
      | (.ok (), fs) =>
          match fs.write (r.temporaryPath key) ((r.encode record).pretty 0) with
          | .error error => (.error (.io error.message), fs)
          | .ok fs =>
              match fs.rename (r.temporaryPath key) path with
              | .error error => (.error (.io error.message), fs)
              | .ok fs => (.ok (), fs)

/-- Puts something else where a record belongs, with all directories on the way. The step
that fails says why; what was done before it stays. -/
def replace (r : RecordFiles ρ) (key : EntityKey)
    (put : FileSystem → List String → Except FileError FileSystem) (fs : FileSystem) :
    Except StorageError Unit × FileSystem :=
  match r.recordPath key with
  | .error error => (.error error, fs)
  | .ok path =>
      match fs.makeDirectories [] path.dropLast with
      | (.error error, fs) => (.error (.io error.message), fs)
      | (.ok (), fs) =>
          match put fs path with
          | .error error => (.error (.io error.message), fs)
          | .ok fs => (.ok (), fs)

def storage (r : RecordFiles ρ) : EntityStorage FileSystem ρ where
  load key := fun fs => (r.load key fs, fs)
  store key record := fun fs => r.store key record fs

end RecordFiles

end Switchboard
