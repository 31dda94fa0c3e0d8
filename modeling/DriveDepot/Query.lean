/-!
Search expressions of the drive: clauses joined by ` and `. A literal stands between single
quotes; a single quote inside it is written with a backslash before it, and nothing else is.
-/

namespace DriveDepot

inductive Clause
  | notTrashed
  | titleIs (title : String)
  | mimeTypeIs (mimeType : String)
  | inParents (folder : String)
  deriving DecidableEq, Repr

namespace Query

def folderMimeType : String := "application/vnd.google-apps.folder"

def escape (c : Char) : List Char := if c = '\x27' then ['\\', '\x27'] else [c]

def quote (value : String) : String :=
  String.ofList ('\x27' :: value.toList.flatMap escape ++ ['\x27'])

/-- Joins the fragments that are not empty. -/
def joined (fragments : List String) : String :=
  " and ".intercalate (fragments.filter (· ≠ ""))

def notTrashed : String := "trashed=false"
def titleIs (title : String) : String := "title=" ++ quote title
def mimeTypeIs (mimeType : String) : String := "mimeType=" ++ quote mimeType
def inParents (folder : String) : String := quote folder ++ " in parents"

end Query

def Clause.text : Clause → String
  | .notTrashed => Query.notTrashed
  | .titleIs title => Query.titleIs title
  | .mimeTypeIs mimeType => Query.mimeTypeIs mimeType
  | .inParents folder => Query.inParents folder

namespace Query

/-- The expression that all the clauses make. -/
def text (clauses : List Clause) : String := joined (clauses.map Clause.text)

/-- The files of a folder, if one is given, that have a title, if one is given. -/
def ofFiles (folder title : Option String) : List Clause :=
  [.notTrashed] ++ (title.map .titleIs).toList ++ (folder.map .inParents).toList

/-- The folders of a title, inside a parent if one is given. -/
def ofFolders (title : String) (parent : Option String) : List Clause :=
  [.notTrashed, .mimeTypeIs folderMimeType, .titleIs title] ++ (parent.map .inParents).toList

/-- The text up to the closing quote, and what follows the quote. The drive takes a backslash before a
single quote for the quote, so a text that ends in a backslash swallows its closing quote. -/
def literalBody : List Char → Option (List Char × List Char)
  | [] => none
  | '\\' :: '\x27' :: rest =>
    (literalBody rest).map fun (text, after) => ('\x27' :: text, after)
  | '\x27' :: rest => some ([], rest)
  | c :: rest => (literalBody rest).map fun (text, after) => (c :: text, after)

def literal : List Char → Option (String × List Char)
  | '\x27' :: rest => (literalBody rest).map fun (text, after) => (String.ofList text, after)
  | _ => none

/-- What follows the word `w`, which has to come next. -/
def after (w : String) (cs : List Char) : Option (List Char) := w.toList.isPrefixOf? cs

/-- One clause, and what follows it. -/
def clause (cs : List Char) : Option (Clause × List Char) :=
  match after notTrashed cs with
  | some rest => some (.notTrashed, rest)
  | none => match after "title=" cs with
    | some rest => (literal rest).map fun (title, rest) => (.titleIs title, rest)
    | none => match after "mimeType=" cs with
      | some rest => (literal rest).map fun (mimeType, rest) => (.mimeTypeIs mimeType, rest)
      | none => do
        let (folder, rest) ← literal cs
        return (.inParents folder, ← after " in parents" rest)

/-- At most `bound` clauses, up to the end of the text. -/
def clauses : (bound : Nat) → List Char → Option (List Clause)
  | 0, _ => none
  | bound + 1, cs => do
    let (first, rest) ← clause cs
    if rest.isEmpty then return [first]
    else return first :: (← clauses bound (← after " and " rest))

/-- A clause has at least one character, so the length bounds the number of clauses. -/
def ofText? (text : String) : Option (List Clause) := clauses text.length text.toList

end Query

end DriveDepot
