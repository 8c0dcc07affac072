import PolicyEngine.Text.Utf8
import PolicyEngine.Text.Basic

/-! Files by name, and computations that ask for them. What such a computation gives depends on the
files alone. -/
namespace PolicyEngine

/-- Why a file could not be read. -/
inductive FileFault where
  | notFound
  | notADirectory
  | isADirectory
  | notText
  | other (message : String)
  deriving Repr, DecidableEq

namespace FileFault

def message : FileFault → String
  | notFound => "No such file or directory (os error 2)"
  | notADirectory => "Not a directory (os error 20)"
  | isADirectory => "Is a directory (os error 21)"
  | notText => "stream did not contain valid UTF-8"
  | other text => text

end FileFault

abbrev FileContent := Except FileFault (List UInt8)

/-- What each file name leads to. -/
abbrev Files := String → FileContent

/-- A computation that may ask for files before it gives its result. -/
inductive Reads (α : Type) where
  | done (result : α)
  | ask (name : String) (next : FileContent → Reads α)

namespace Reads

variable {α β : Type}

def bind : Reads α → (α → Reads β) → Reads β
  | done a, f => f a
  | ask name next, f => ask name fun content => (next content).bind f

instance : Monad Reads where
  pure := done
  bind := bind

/-- The result under given files. -/
def result (files : Files) : Reads α → α
  | done a => a
  | ask name next => result files (next (files name))

@[simp] theorem result_done (files : Files) (a : α) : (done a).result files = a := rfl

@[simp] theorem result_pure (files : Files) (a : α) : (pure a : Reads α).result files = a := rfl

@[simp] theorem result_ask (files : Files) (name : String) (next : FileContent → Reads α) :
    (ask name next).result files = (next (files name)).result files := rfl

@[simp] theorem result_bind (files : Files) (x : Reads α) (f : α → Reads β) :
    (x >>= f).result files = (f (x.result files)).result files := by
  induction x with
  | done => rfl
  | ask name next ih => exact ih (files name)

def bytes (name : String) : Reads FileContent := ask name done

def decoded (content : FileContent) : Except FileFault String :=
  match content with
  | .ok bytes =>
    match Text.Utf8.text? bytes with
    | some text => .ok text
    | none => .error .notText
  | .error fault => .error fault

/-- A file as text, which must be UTF-8. -/
def text (name : String) : Reads (Except FileFault String) := ask name fun content => done (decoded content)

end Reads

/-! File names -/

namespace FileName

/-- Pieces of a name that stand for the directory they are in. -/
def isIdle (piece : List Char) : Bool := piece = [] || piece = ['.']

/-- The pieces between the slashes of a name, without idle ones at the end. The first one stays. -/
def pieces (name : String) : List Char × List (List Char) :=
  let (first, rest) := Text.split '/' name.toList
  (first, (rest.reverse.dropWhile isIdle).reverse)

/-- The directory that a file is in, as far as its name tells. -/
def parent (name : String) : String :=
  let (first, rest) := pieces name
  if rest.isEmpty then ""
  else
    let above := (rest.reverse.tail.dropWhile isIdle).reverse
    if first.isEmpty && above.isEmpty then "/" else String.ofList (Text.join '/' first above)

def isAbsolute (name : String) : Bool := name.toList.head? = some '/'

/-- A name seen from a directory. An absolute name stays as it is. -/
def within (directory name : String) : String :=
  if isAbsolute name || directory.isEmpty then name
  else if directory.toList.getLast? = some '/' then directory ++ name
  else directory ++ "/" ++ name

/-- The name of a file in its directory. -/
def ownName (name : String) : List Char :=
  let (first, rest) := pieces name
  rest.getLast?.getD first

/-- What follows the last point of a file's own name, unless that point comes first. -/
def extension? (name : String) : Option String :=
  let own := ownName name
  let (first, rest) := Text.split '.' own
  if (first.isEmpty && rest.length = 1) || own = ['.', '.'] then none
  else rest.getLast?.map String.ofList

example : parent "a//b/c.toml" = "a//b" ∧ parent "c.toml" = "" ∧ parent "/c.toml" = "/" := by
  decide
example : extension? "p/x.json" = some "json" ∧ extension? ".json" = none := by decide

end FileName

end PolicyEngine
