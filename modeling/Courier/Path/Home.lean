import Courier.Settings
import Courier.Text.Lines
import Courier.Text.Split

/-!
# Home folders

The user's own home folder is named by a variable of the environment, and else
by the system; those of other users stand in the system's table of accounts, a
line of seven fields for each.

Key definitions: `Home.accounts`, `Home.homeOf`.
-/

namespace Courier.Home

/-- The variable that names the user's own home folder. -/
def homeVariable : Text := "HOME".toList

/-- The home folders of a table of accounts, by the names of their users. -/
def accounts (table : Text) : Table Text :=
  (Text.lines table).filterMap fun line =>
    match Text.splitOn ':' line with
    | [name, _, _, _, _, home, _] => some (name, home)
    | _ => none

/-- The home folder of a user; the empty name is that of the user who runs the program. -/
def homeOf (own : Text) (accounts : Table Text) (env : Environment) (user : Text) : Option Text :=
  if user = [] then some ((env.lookup homeVariable).getD own) else accounts.lookup user

end Courier.Home
