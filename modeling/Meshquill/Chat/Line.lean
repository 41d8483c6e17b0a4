import Meshquill.Cli.Contacts

/-!
# Chat lines

`parse_chat_line` of `runtime.rs`: a line that starts with one slash is a command, every other
line that is not blank is a message.
-/
namespace Meshquill

inductive ParsedChatLine where
  | empty
  | message (text : String)
  | help
  | contacts (query : Option String)
  | to (query : String)
  | channel (channel : UInt8)
  | history (limit : Nat)
  | sendRetained
  | discardRetained
  | quit
  | commandError (command message : String) (suggestion : Option String)
deriving DecidableEq

def oneChatArgument (arguments : List Char) : Option String :=
  match splitWhitespace arguments with
  | [value] => some (String.ofList value)
  | _ => none

def chatParseError (command message : String) : ParsedChatLine :=
  .commandError command message none

def noArgumentChatCommand (arguments : List Char) (command : String) (parsed : ParsedChatLine) :
    ParsedChatLine :=
  if arguments = [] then parsed
  else chatParseError command "this command does not accept arguments"

def chatHistoryDefault : Nat := 20

def chatHistoryMax : Nat := 100

def chatCommandNames : List String :=
  ["/help", "/contacts", "/to", "/channel", "/history", "/send", "/discard", "/quit"]

def parseChatCommand (lowercase : String → String) (command : String) (arguments : List Char) :
    ParsedChatLine :=
  if command = "/help" then noArgumentChatCommand arguments command .help
  else if command = "/contacts" then
    .contacts (if arguments = [] then none else some (String.ofList arguments))
  else if command = "/to" then
    if arguments = [] then chatParseError command "expected an exact contact name or key prefix"
    else .to (String.ofList arguments)
  else if command = "/channel" then
    match (oneChatArgument arguments).bind parseU8 with
    | some channel => .channel channel
    | none => chatParseError command "expected one channel index from 0 to 255"
  else if command = "/history" then
    if arguments = [] then .history chatHistoryDefault
    else
      match (oneChatArgument arguments).bind (parseUnsigned usizeMax) with
      | some (limit + 1) => .history (min (limit + 1) chatHistoryMax)
      | _ => chatParseError command "expected one positive history entry count"
  else if command = "/send" then noArgumentChatCommand arguments command .sendRetained
  else if command = "/discard" then noArgumentChatCommand arguments command .discardRetained
  else if command = "/quit" then noArgumentChatCommand arguments command .quit
  else
    .commandError command ("unknown chat command '" ++ command ++ "'")
      (closestSuggestion lowercase command chatCommandNames)

def parseChatLine (lowercase : String → String) (line : String) : ParsedChatLine :=
  if trim line.toList = [] then .empty
  else
    match line.toList with
    | '/' :: '/' :: literal => .message (String.ofList ('/' :: literal))
    | '/' :: rest =>
      let command := String.ofList (('/' :: rest).takeWhile (!isWhitespace ·))
      parseChatCommand lowercase command (trim (('/' :: rest).dropWhile (!isWhitespace ·)))
    | _ => .message line

end Meshquill
