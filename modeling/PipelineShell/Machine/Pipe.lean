/-
Pipes.

What is written to a pipe is kept in pages until it is read. A pipe has a fixed number of pages, so
a writer that is ahead of the reader has to wait. A short write that fits into the last page is
added to it; everything else starts a new page.
-/

import PipelineShell.Text.Bytes

namespace PipelineShell

/-- A page of a pipe. What is left of it is kept in pieces, the last one first, so that a short
write costs no more than its own length. -/
structure Page where
  /-- How much of the page was read already. -/
  taken : Nat
  pieces : List Bytes
  /-- How much is left. -/
  length : Nat
  length_eq : pieces.flatten.length = length
  deriving DecidableEq, Repr

namespace Page

/-- How much a page holds. -/
def size : Nat := 4096

/-- A page that nothing was read from. -/
def ofBytes (bytes : Bytes) : Page := ⟨0, [bytes], bytes.length, by simp⟩

/-- What is left of a page. -/
def bytes (page : Page) : Bytes := page.pieces.reverse.flatten

/-- Whether so many bytes still fit behind those that were written to a page. -/
def hasRoom (page : Page) (count : Nat) : Bool := page.taken + page.length + count ≤ size

/-- Adds bytes to a page. -/
def add (page : Page) (bytes : Bytes) : Page :=
  ⟨page.taken, bytes :: page.pieces, bytes.length + page.length, by simp [page.length_eq]⟩

/-- Takes bytes from a page. -/
def drop (page : Page) (count : Nat) : Page :=
  let left := page.bytes.drop count
  ⟨page.taken + count, [left], left.length, by simp⟩

end Page

/-- A pipe: its pages, the one to be read next first. -/
structure Pipe where
  pages : List Page
  deriving DecidableEq, Repr

namespace Pipe

/-- A pipe that nothing was written to. -/
def empty : Pipe := ⟨[]⟩

/-- How many pages a pipe may have. -/
def pageLimit : Nat := 16

/-- Whether there is room for another page. -/
def hasRoom (pipe : Pipe) : Bool := pipe.pages.length < pageLimit

/-- Whether there is nothing to read. -/
def isEmpty (pipe : Pipe) : Bool := pipe.pages.isEmpty

/-- Lets the odd part at the beginning of a write join the last page, if there is one with room for
it. Gives what is left to be written. -/
def join (pipe : Pipe) (bytes : Bytes) : Pipe × Bytes :=
  let odd := bytes.length % Page.size
  match pipe.pages.getLast? with
  | none => (pipe, bytes)
  | some last =>
    if last.hasRoom odd then
      (⟨pipe.pages.dropLast ++ [last.add (bytes.take odd)]⟩, bytes.drop odd)
    else (pipe, bytes)

/-- Adds pages for a write, as many as there is room for. Gives what is left to be written. The
number bounds how many pages are added. -/
def extend : Nat → Pipe → Bytes → Pipe × Bytes
  | 0, pipe, bytes => (pipe, bytes)
  | pages + 1, pipe, bytes =>
    if bytes.isEmpty || !pipe.hasRoom then (pipe, bytes)
    else
      extend pages ⟨pipe.pages ++ [.ofBytes (bytes.take Page.size)]⟩ (bytes.drop Page.size)

/-- Takes up to some number of bytes from pages. -/
def takeFrom : Nat → List Page → Bytes × List Page
  | _, [] => ([], [])
  | count, page :: rest =>
    if page.length ≤ count then
      let (bytes, pages) := takeFrom (count - page.length) rest
      (page.bytes ++ bytes, pages)
    else (page.bytes.take count, page.drop count :: rest)

/-- Takes up to some number of bytes from a pipe. -/
def take (pipe : Pipe) (count : Nat) : Bytes × Pipe :=
  let (bytes, pages) := takeFrom count pipe.pages
  (bytes, ⟨pages⟩)

/-- A pipe that holds a text, however long, and that nobody writes to any more. -/
def ofBytes (bytes : Bytes) : Pipe := if bytes.isEmpty then empty else ⟨[.ofBytes bytes]⟩

end Pipe

end PipelineShell
