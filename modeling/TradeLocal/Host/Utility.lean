import TradeLocal.Bytes

/-!
# Utilities

The programs of the system that can be run, and the names under which they are found.  A host
has no others: `sed` and a `kill` that is no builtin are missing from it.
-/

namespace TradeLocal.Host

inductive Utility where
  | shell
  | succeed
  | fail
  | echo
  | printf
  | cat
  | sleep
  | test
  | bracket
  | env
  | printenv
  | list
  | baseName
  | directoryName
  | count
  | sort
  | translate
  | expr
  | sequence
  | head
  | tail
  | remove
  | removeDirectory
  | makeDirectory
  | touch
  | copy
  | move
  | makeLink
  | changeMode
  | unique
  | cut
  | tee
  | reverseLines
  | reverseBytes
  | numberLines
  | fold
  | paste
  | compareSorted
  | compareBytes
  | repeatLine
  | readLink
  | realPath
  | workingDirectory
  | userName
  | userIdentity
  | systemName
  | xargs
  | grep
  | timeout
  | which
  | terminalName
  deriving DecidableEq, Repr

namespace Utility

def table : List (Bytes × Utility) :=
  [(ascii "[", .bracket), (ascii "basename", .baseName), (ascii "cat", .cat),
    (ascii "chmod", .changeMode), (ascii "cmp", .compareBytes), (ascii "comm", .compareSorted),
    (ascii "cp", .copy), (ascii "cut", .cut), (ascii "dash", .shell),
    (ascii "dirname", .directoryName), (ascii "echo", .echo), (ascii "env", .env),
    (ascii "expr", .expr), (ascii "false", .fail), (ascii "fold", .fold), (ascii "grep", .grep),
    (ascii "head", .head), (ascii "id", .userIdentity), (ascii "ln", .makeLink),
    (ascii "ls", .list), (ascii "mkdir", .makeDirectory), (ascii "mv", .move),
    (ascii "nl", .numberLines), (ascii "paste", .paste), (ascii "printenv", .printenv),
    (ascii "printf", .printf), (ascii "pwd", .workingDirectory), (ascii "readlink", .readLink),
    (ascii "realpath", .realPath), (ascii "rev", .reverseBytes), (ascii "rm", .remove),
    (ascii "rmdir", .removeDirectory), (ascii "seq", .sequence), (ascii "sh", .shell),
    (ascii "sleep", .sleep), (ascii "sort", .sort), (ascii "tac", .reverseLines),
    (ascii "tail", .tail), (ascii "tee", .tee), (ascii "test", .test),
    (ascii "timeout", .timeout), (ascii "touch", .touch), (ascii "tr", .translate),
    (ascii "true", .succeed), (ascii "tty", .terminalName), (ascii "uname", .systemName),
    (ascii "uniq", .unique), (ascii "wc", .count), (ascii "which", .which),
    (ascii "whoami", .userName), (ascii "xargs", .xargs), (ascii "yes", .repeatLine)]

end Utility

end TradeLocal.Host
