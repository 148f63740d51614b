import Switchboard.Consumer.Registry
import Switchboard.Sample.Lab.Message

namespace Switchboard.Sample.Lobby

/-! A lobby where forms are handed in. There is nothing outside it. -/

/-- Takes forms that are complete. -/
def strict : HandlerSet Unit := .ofMethods "strict" [.on Form.type fun _ => return .ok []]

/-- Takes whatever is handed in under the name of a form. -/
def lenient : HandlerSet Unit := .ofMethods "lenient" [.on looseForm fun _ => return .ok []]

/-- Passes forms on, under the id of the one who takes complete ones. -/
def namesake : Dispatcher Unit where
  id := "strict"
  classes := [Form.type.toClass]
  dispatch _ := return .ok (.success [])

/-- Passes on visits and, twice over, forms of either kind. -/
def porter : Dispatcher Unit where
  id := "porter"
  classes := [Form.type.toClass, Ping.type.toClass, looseForm.toClass]
  dispatch _ := return .ok (.success [])

end Switchboard.Sample.Lobby
