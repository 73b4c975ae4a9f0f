import ArmScript.Toml.Reader

set_option autoImplicit false

namespace ArmScript.Toml

structure Draft where
  entries : Entries
  path : List String

def Draft.add? (d : Draft) : Line → Option Draft
  | .entry key value =>
    (d.entries.within? (fun t => t.addDotted? value key) d.path).map fun entries => { d with entries }
  | .opening path => do
    let key ← path.getLast?
    let entries ← d.entries.within? (Entries.open? key) path.dropLast
    some ⟨entries, path⟩
  | .element path => do
    let key ← path.getLast?
    let entries ← d.entries.within? (Entries.extend? key) path.dropLast
    some ⟨entries, path⟩

def dropByteOrderMark : List Char → List Char
  | '\uFEFF' :: cs => cs
  | cs => cs

def readDocument? (text : String) : Option Entries := do
  let cs := dropByteOrderMark text.toList
  let lines ← readLines? (cs.length + 1) cs
  let draft ← lines.foldlM Draft.add? ⟨[], []⟩
  some draft.entries

end ArmScript.Toml
