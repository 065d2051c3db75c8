import MetricArchive.Source.Attempt
import MetricArchive.Url.Reference

/-!
# Redirects

A reply may send elsewhere. No one follows it there, but the request that would be made there is
prepared, and what goes wrong with that ends the source, unless the reply names no address at all.
-/
namespace MetricArchive

/-- Why no request can be made where a reply sends to. -/
inductive RedirectFault where
  /-- What the reply names is no address. -/
  | notAddress (f : UrlFault)
  | deadEnd (f : SourceFailure)
  deriving DecidableEq, Repr

namespace HttpUrl

/-- Whether a request for the address can say whom it is for. -/
def checkHost (u : HttpUrl) : Except SourceFailure Unit := do
  let _ ← u.hostName.mapError .hostName
  (Reply.checkPlain u.netloc).mapError .headers

/-- An address with a scheme and no host is one at the host that was asked. -/
def atHostOf (asked u : HttpUrl) : Except SourceFailure HttpUrl := do
  if u.scheme.isEmpty then return u
  let host ← u.hostName.mapError .hostName
  if !host.isEmpty then return u
  let host ← asked.hostName.mapError .hostName
  (u.withHost host).mapError .address

/-- What leaves out more is joined with the address that was asked. -/
def completedBy (asked u : HttpUrl) : Except SourceFailure HttpUrl :=
  if u.isComplete then .ok u else (read (join asked.text u.text)).mapError .address

/-- Without a fragment of its own, the address gets the one that was asked for. -/
def withFragmentOf (asked u : HttpUrl) : Except SourceFailure HttpUrl :=
  let kept := Url.decode (asked.fragment.getD "").toList
  if kept.isEmpty || !(u.fragment.getD "").isEmpty then .ok u
  else (u.withFragment kept).mapError .address

def destination (asked : HttpUrl) (location : String) : Except RedirectFault HttpUrl := do
  let named ← (read location).mapError .notAddress
  let place := do
    let u ← asked.atHostOf named
    let u ← asked.completedBy u
    let u ← asked.withFragmentOf u
    u.checkHost
    return u
  place.mapError .deadEnd

end HttpUrl

/-- What is wrong with the place that a reply to a request sends to. -/
def Reply.redirectFault? (r : Reply) (asked : HttpUrl) : Option RedirectFault :=
  r.location?.bind fun location =>
    match asked.destination location with
    | .error fault => some fault
    | .ok _ => none

end MetricArchive
