import MetricArchive.Source.Attempt
import MetricArchive.Source.SystemError

/-!
# Sources that are read once

The whole of a stream is one payload. A stream can fail to be read, and it is empty once it has
been read. A source may own its stream and then closes it, whatever the reading came to.
-/
namespace MetricArchive

/-- What reading a stream gives next, and whether it is closed. -/
structure ByteStream where
  content : Except SystemError (List UInt8)
  closed : Bool

structure OneShot where
  name : String
  constants : Labels
  /-- Whether the source owns the stream. -/
  closesStream : Bool
  deriving DecidableEq, Repr

namespace OneShot

def leave (o : OneShot) (s : ByteStream) : ByteStream :=
  { content := s.content.map fun _ => [], closed := s.closed || o.closesStream }

/-- Nothing is attempted once the source has been told to stop. -/
def scrape (o : OneShot) (stopped : Bool) (now : Moment) (s : ByteStream) :
    List Attempt × ByteStream :=
  if stopped then ([], s)
  else
    match s.content with
    | .error e => ([⟨.ok none, [.readFailed o.name e.message]⟩], o.leave s)
    | .ok bytes =>
      if s.closed then ([⟨.error .closedStream, []⟩], s)
      else ([.ofReading o.name now (Exposition.readBytes o.constants bytes)], o.leave s)

end OneShot

end MetricArchive
