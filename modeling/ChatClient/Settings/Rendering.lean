import ChatClient.Json.Printer
import ChatClient.Settings

/-!
# Settings as they are shown

All settings on one line, as a log shows them. The secrets among them are masked.
-/

namespace ChatClient

namespace Number

/-- Text of the positive decimal `digits * 10 ^ exponent` with one digit before the point. -/
def scientificText (d : DecimalDigits) : String :=
  let ds := Nat.toDigits 10 d.digits
  let tail := if ds.length ≤ 1 then "" else "." ++ String.ofList (ds.drop 1)
  String.ofList (ds.take 1) ++ tail ++ "e" ++ intText (ds.length + d.exponent - 1)

/-- Text of a float in a rendering. From `1e-4` up to `1e16` the notation is positional. -/
def inspectFloat (x : Float) : String :=
  match FloatParts.ofFloat x with
  | .nan => "NaN"
  | .infinite negative => if negative then "-inf" else "inf"
  | .finite negative d =>
      let sign := if negative then "-" else ""
      let shortest := d.shortest
      let point : Int := (Nat.toDigits 10 shortest.digits).length + shortest.exponent
      if d.mantissa = 0 then sign ++ "0.0"
      else if -4 < point ∧ point ≤ 16 then sign ++ decimalText shortest
      else sign ++ scientificText shortest

end Number

namespace Settings

/-- A full rendering of the settings. The error codes are a set without an order of its own; `codes` are
its members in the order in which they happen to come. -/
def inspect (s : Settings) (codes : List Int) : String :=
  let flag (b : Bool) : String := if b then "true" else "false"
  let cap := match s.maxRounds with
    | none => "None"
    | some n => "Some(" ++ toString n ++ ")"
  "Config \x7b base_url: " ++ quoted s.baseUrl ++
    ", credentials: " ++ s.credentials.masked ++
    ", disable_alternate_backend: " ++ flag s.disableAlternate ++
    ", retry_err_codes: \x7b" ++ String.intercalate ", " (codes.map Number.intText) ++
    "\x7d, max_wait_interval: " ++ s.maxWait.describe ++
    ", retry_jitter: " ++ Number.inspectFloat s.jitter ++
    ", max_continuation_rounds: " ++ cap ++ " \x7d"

end Settings

end ChatClient
