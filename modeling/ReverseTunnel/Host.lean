import ReverseTunnel.Text.Split

/-!
# Public host names

Two spellings of a host name the same host when they have the same normal form:
blanks around it, a port after it, dots at its end and ASCII case do not count.
A colon cuts a port only when it is the one colon and digits follow. A name in
brackets ends at its bracket.
-/

namespace ReverseTunnel

/-- The host without a port; a bracketed host without all that follows it. -/
def hostWithoutPort (host : List Char) : List Char :=
  match host with
  | '[' :: _ =>
    match Text.cutFirst ']' host with
    | some (name, _) => name ++ [']']
    | none => host
  | _ =>
    match Text.cutLast ':' host with
    | some (name, port) => if !name.contains ':' && Text.isDigits port then name else host
    | none => host

/-- The normal form of a host's characters. -/
def normalHostList (host : List Char) : List Char :=
  (Text.dropEndWhile (· == '.') (hostWithoutPort (Text.trimList host))).map Char.toLower

/-- The normal form of a host. -/
def normalHost (host : String) : String := String.ofList (normalHostList host.toList)

end ReverseTunnel
