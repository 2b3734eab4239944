import PodRunner.Context.Document
import PodRunner.FileTree

/-!
# Contexts in files

A context is read from a given file, or else from a fixed one below the home directory.
-/

namespace PodRunner.Context

def homeUnset : Error :=
  .invalidConfig "failed to read $HOME: environment variable not found"

def defaultPath (home : Option String) : Except Error String :=
  match home with
  | some home => .ok s!"{home}/.infraval/infraval.yaml"
  | none => .error homeUnset

def notAFile (path : String) : Error := .invalidConfig s!"<{path}> is not a file"

def notUtf8 : Error := .internal "stream did not contain valid UTF-8"

def ofFile (tree : FileTree) (home path : Option String) : Except Error Context := do
  let path ← match path with
    | some path => .ok path
    | none => defaultPath home
  match tree.read? path with
  | none => throw (notAFile path)
  | some bytes =>
    match String.fromUTF8? bytes with
    | none => throw notUtf8
    | some text => ofYaml text

end PodRunner.Context
