import LineBasic.Settings.Basic
import LineBasic.Yaml.Record

/-!
Settings read from a YAML document. A setting that is left out or null stays as it is, and keys that
are no settings are passed over.
-/
namespace LineBasic.Settings

open Yaml (RecordField Reader RecordFault)

def durationReader : Reader Duration := Reader.ofScalar fun _ a =>
  match a with
  | .text s => Duration.read? s
  | _ => none

def traceFields : List (RecordField Settings) := [
  .ofReader "vars" Reader.truth fun b s => { s with traceVariables := b },
  .ofReader "exec" Reader.truth fun b s => { s with traceLines := b },
  .ofReader "only" Reader.texts fun names s => { s with traceOnly := names }]

def logFields : List (RecordField Settings) := [
  .ofReader "level" Reader.text fun level s => { s with logLevel := level }]

def watchFields : List (RecordField Settings) := [
  .ofReader "debounce" durationReader fun d s => { s with debounce := d }]

def fields : List (RecordField Settings) := [
  .ofReader "prompt" Reader.text fun p s => { s with prompt := p },
  .ofReader "history" Reader.truth fun b s => { s with history := b },
  .ofReader "stats" Reader.truth fun b s => { s with statistics := b },
  .ofReader "input_prompt" Reader.truth fun b s => { s with inputPrompt := b },
  .ofReader "max_steps" Reader.integer fun n s => { s with maxSteps := n },
  .group "trace" traceFields,
  .group "log" logFields,
  .group "watch" watchFields]

def applyDocument (s : Settings) (text : String) : Except RecordFault Settings :=
  match Yaml.Document.ofText? text with
  | some (some d) => d.fill fields s
  | some none => .ok s
  | none => .error .malformed

end LineBasic.Settings
