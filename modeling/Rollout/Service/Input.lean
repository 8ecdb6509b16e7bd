import Rollout.Document.Format
import Rollout.Service.Codec
import Rollout.Text.Blank

/-!
# Service documents

* `Service.ofDocument`: the service in a document, which may hold none.
-/

namespace Rollout

/-- The service in a document. A blank or null document holds none. -/
def Service.ofDocument (f : Format) (text : String) : Except Fault (Option Service) :=
  if Text.allBlank text.toList then .ok none else f.decode Service.schema.codec.option text

end Rollout
