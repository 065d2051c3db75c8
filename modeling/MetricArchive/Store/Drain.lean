import MetricArchive.Buffer.Basic
import MetricArchive.Store.Writer

/-!
# Draining a buffer into a store

A writer takes scrapes from a closed buffer until it is empty. A failure that passes through ends
the draining and leaves the rest in the buffer.
-/
namespace MetricArchive.Writer

structure Drained where
  failure : Option Failure
  buffer : Buffer Scrape
  store : Store
  writer : Writer
  events : List Event

def drain (d : Disruption) (store : Store) (w : Writer) (b : Buffer Scrape) : Drained :=
  let (failure, left, store, w, events) := writeAll d store w b.queue
  let taken := b.depth - left.length
  ⟨failure,
    { b with queue := left, metrics := { b.metrics with popped := b.metrics.popped + taken } },
    store, w,
    .writerStarted :: events ++ (if failure.isSome then [] else [.writerFinished w.metrics])⟩

end MetricArchive.Writer
