/-!
Paths that begin in the home directory.
-/

set_option autoImplicit false

namespace Upkeep

/-- The home directory of the account, where none is set. -/
def accountHome : String := "/root"

def join (directory : List Char) (path : List Char) : List Char :=
  if directory.getLast? = some '/' then directory ++ path else directory ++ '/' :: path

/-- Replaces a leading `~` by the home directory. The slashes after it count as one, and a path that
goes on with anything but a slash stays as it is. -/
def expand (home path : String) : String :=
  let home := if home = "" then accountHome else home
  match path.toList with
  | ['~'] => home
  | '~' :: '/' :: rest =>
    match rest.dropWhile (· = '/') with
    | [] => home
    | rest => String.ofList (join home.toList rest)
  | _ => path

end Upkeep
