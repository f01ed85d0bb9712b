/-!
# Method paths

Methods and notification topics are named by a root and segments below it.
-/

set_option autoImplicit false

namespace ServerManagement

structure MethodPath where
  root : String
  segments : List String
deriving DecidableEq, Repr

namespace MethodPath

def ofRoot (root : String) : MethodPath := ⟨root, []⟩

def notification : MethodPath := ofRoot "notification"

/-- Go down by a segment; the empty segment stays where it is. -/
def add (path : MethodPath) (segment : String) : MethodPath :=
  if segment = "" then path else { path with segments := path.segments ++ [segment] }

def render (path : MethodPath) : String :=
  path.segments.foldl (fun text segment => text ++ "/" ++ segment) ("minecraft:" ++ path.root)

end MethodPath

end ServerManagement
