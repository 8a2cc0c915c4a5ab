import TronWallet.Url.Escape

/-!
# Users of a URL

A URL may say as whom to ask: a user's name, and a password after a colon, stand before an
at sign. A request does not carry them in its URL, but apart from it, where they can only
stand if they are text.
-/

namespace TronWallet.Url

/-- As whom to ask. -/
structure User where
  name : List Char
  password : Option (List Char)
  deriving DecidableEq

namespace User

/-- The text of a user, with the at sign after it. -/
def text (u : User) : List Char :=
  u.name ++ (u.password.map (':' :: ·)).getD [] ++ ['@']

/-- Can a user be told apart from the URL? The name has to be text, and if there is none,
the password. -/
def isSeparable (u : User) : Bool :=
  (unescaped? u.name).isSome && (u.name ≠ [] || (u.password.bind unescaped?).isSome)

/-- Reads what stands before the at sign. An empty password is none, and a name and a
password that are both empty are no user. -/
def read? (cs : List Char) : Option User :=
  let name := cs.takeWhile (· ≠ ':')
  let password := (cs.dropWhile (· ≠ ':')).drop 1
  if name = [] ∧ password = [] then none
  else
    some {
      name := escape reservedInUser name
      password := if password = [] then none else some (escape reservedInUser password) }

end User

end TronWallet.Url
