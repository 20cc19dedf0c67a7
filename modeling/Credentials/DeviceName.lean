/-!
Display names of devices: letters, digits and underscores only.
-/

namespace Credentials.DeviceName

def unnamed : String := "Unknown_device"

/-- Every character but an ASCII letter or digit becomes an underscore. -/
def sanitize (requested : String) : String :=
  if requested.isEmpty then unnamed
  else String.ofList (requested.toList.map fun c => if c.isAlphanum then c else '_')

end Credentials.DeviceName
