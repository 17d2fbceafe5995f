import PatternBuild.Shell.Builtin.Jobs
import PatternBuild.Shell.Tool.Coding
import PatternBuild.Shell.Tool.Columns
import PatternBuild.Shell.Tool.Compression
import PatternBuild.Shell.Tool.Cutting
import PatternBuild.Shell.Tool.Difference.Files
import PatternBuild.Shell.Tool.Dump
import PatternBuild.Shell.Tool.Editor.Run
import PatternBuild.Shell.Tool.Expression
import PatternBuild.Shell.Tool.Factors
import PatternBuild.Shell.Tool.Find
import PatternBuild.Shell.Tool.LineSearch
import PatternBuild.Shell.Tool.Listing
import PatternBuild.Shell.Tool.Merging
import PatternBuild.Shell.Tool.Moves
import PatternBuild.Shell.Tool.OptionLine
import PatternBuild.Shell.Tool.Patch
import PatternBuild.Shell.Tool.Printing
import PatternBuild.Shell.Tool.Readable
import PatternBuild.Shell.Tool.Records
import PatternBuild.Shell.Tool.Scaling
import PatternBuild.Shell.Tool.Selection
import PatternBuild.Shell.Tool.Sorting
import PatternBuild.Shell.Tool.Streams
import PatternBuild.Shell.Tool.Sums
import PatternBuild.Shell.Tool.System
import PatternBuild.Shell.Tool.Tape
import PatternBuild.Shell.Tool.Transfer
import PatternBuild.Shell.Tool.Translation
import PatternBuild.Shell.Tool.Unfold

/-!
# The tools by name
-/

namespace PatternBuild.Shell

/-- tools that print or follow what they are given -/
def textTool? : String → Option Tool
  | "awk" => some Tool.awk
  | "cat" => some (Tool.alone Tool.cat)
  | "comm" => some (Tool.alone Tool.comm)
  | "csplit" => some (Tool.alone Tool.csplit)
  | "cut" => some (Tool.alone Tool.cut)
  | "echo" => some (Tool.alone Tool.echo)
  | "expand" => some (Tool.alone Tool.expand)
  | "egrep" => some (Tool.alone (Tool.grep ["-E"]))
  | "expr" => some (Tool.alone Tool.expr)
  | "fgrep" => some (Tool.alone (Tool.grep ["-F"]))
  | "fold" => some (Tool.alone Tool.fold)
  | "grep" => some (Tool.alone (Tool.grep []))
  | "head" => some (Tool.alone Tool.head)
  | "join" => some (Tool.alone Tool.join)
  | "m4" => some Tool.m4
  | "mawk" => some Tool.awk
  | "nawk" => some Tool.awk
  | "nl" => some (Tool.alone Tool.nl)
  | "numfmt" => some (Tool.alone Tool.numfmt)
  | "paste" => some (Tool.alone Tool.paste)
  | "shuf" => some (Tool.alone Tool.shuf)
  | "factor" => some (Tool.alone Tool.factor)
  | "tsort" => some (Tool.alone Tool.tsort)
  | "printf" => some (Tool.alone Tool.printf)
  | "rev" => some (Tool.alone Tool.rev)
  | "rgrep" => some (Tool.alone (Tool.grep ["-r"]))
  | "sed" => some Tool.sed
  | "seq" => some (Tool.alone Tool.seq)
  | "sort" => some (Tool.alone Tool.sort)
  | "split" => some Tool.split
  | "tac" => some (Tool.alone Tool.tac)
  | "tail" => some (Tool.alone Tool.tail)
  | "tee" => some (Tool.alone Tool.tee)
  | "tr" => some (Tool.alone Tool.tr)
  | "unexpand" => some (Tool.alone Tool.unexpand)
  | "uniq" => some (Tool.alone Tool.uniq)
  | "wc" => some (Tool.alone Tool.wc)
  | "yes" => some (Tool.alone Tool.yes)
  | _ => none

/-- tools that compare files or tell their digests -/
def contentTool? : String → Option Tool
  | "b2sum" => some (Tool.alone (Tool.digestTool "b2sum" Tool.Sums.blake2b))
  | "base32" => some (Tool.alone (Tool.codeTool "base32" Tool.Coding.base32))
  | "base64" => some (Tool.alone (Tool.codeTool "base64" Tool.Coding.base64))
  | "basenc" => some (Tool.alone Tool.basenc)
  | "cksum" => some (Tool.alone Tool.cksum)
  | "cmp" => some (Tool.alone Tool.cmp)
  | "diff" => some (Tool.alone Tool.diff)
  | "sdiff" => some Tool.sdiff
  | "gunzip" => some (Tool.alone Tool.gunzip)
  | "gzip" => some (Tool.alone Tool.gzip)
  | "patch" => some (Tool.alone Tool.patch)
  | "tar" => some Tool.tar
  | "zcat" => some (Tool.alone Tool.zcat)
  | "md5sum" => some (Tool.alone (Tool.digestTool "md5sum" Tool.Sums.md5))
  | "od" => some (Tool.alone Tool.od)
  | "sha1sum" => some (Tool.alone (Tool.digestTool "sha1sum" Tool.Sums.sha1))
  | "sha224sum" => some (Tool.alone (Tool.digestTool "sha224sum" Tool.Sums.sha224))
  | "sha256sum" => some (Tool.alone (Tool.digestTool "sha256sum" Tool.Sums.sha256))
  | "sha384sum" => some (Tool.alone (Tool.digestTool "sha384sum" Tool.Sums.sha384))
  | "sha512sum" => some (Tool.alone (Tool.digestTool "sha512sum" Tool.Sums.sha512))
  | "strings" => some (Tool.alone Tool.strings)
  | "sum" => some (Tool.alone Tool.sum)
  | _ => none

/-- tools that work on files and their names -/
def fileTool? : String → Option Tool
  | "basename" => some (Tool.alone Tool.basename)
  | "chgrp" => some (Tool.alone (Tool.chown "chgrp"))
  | "chmod" => some (Tool.alone Tool.chmod)
  | "chown" => some (Tool.alone (Tool.chown "chown"))
  | "cp" => some (Tool.alone Tool.cp)
  | "dd" => some (Tool.alone Tool.dd)
  | "dir" => some (Tool.alone (Tool.ls true))
  | "dirname" => some (Tool.alone Tool.dirname)
  | "find" => some Tool.find
  | "install" => some (Tool.alone Tool.install)
  | "link" => some (Tool.alone Tool.link)
  | "ln" => some (Tool.alone Tool.ln)
  | "ls" => some (Tool.alone (Tool.ls false))
  | "mkdir" => some (Tool.alone Tool.mkdir)
  | "mkfifo" => some (Tool.alone Tool.mkfifo)
  | "mktemp" => some (Tool.alone Tool.mktemp)
  | "mv" => some (Tool.alone Tool.mv)
  | "pathchk" => some (Tool.alone Tool.pathchk)
  | "pwd" => some (Tool.alone Tool.pwd)
  | "readlink" => some (Tool.alone Tool.readlink)
  | "realpath" => some (Tool.alone Tool.realpath)
  | "rm" => some (Tool.alone Tool.rm)
  | "rmdir" => some (Tool.alone Tool.rmdir)
  | "stat" => some (Tool.alone Tool.stat)
  | "touch" => some (Tool.alone Tool.touch)
  | "truncate" => some (Tool.alone Tool.truncate)
  | "unlink" => some (Tool.alone Tool.unlink)
  | _ => none

/-- tools that run others, or tell about the system -/
def systemTool? : String → Option Tool
  | "true" => some fun _ _ => pure 0
  | "false" => some fun _ _ => pure 1
  | "sync" => some fun _ _ => pure 0
  | "[" => some (Tool.alone Tool.bracket)
  | "test" => some (Tool.alone (Tool.decideCondition "test"))
  | "arch" => some (Tool.alone (Tool.fixedLine "arch" "x86_64"))
  | "date" => some (Tool.alone Tool.date)
  | "env" => some Tool.env
  | "getopt" => some (Tool.alone Tool.getopt)
  | "groups" => some (Tool.alone Tool.groups)
  | "hostname" => some (Tool.alone (Tool.fixedLine "hostname" "localhost"))
  | "id" => some (Tool.alone Tool.id)
  | "kill" => some (Tool.alone Builtin.kill)
  | "logname" => some fun _ _ => Tool.refuse "logname" "no login name" 1
  | "nice" => some Tool.nice
  | "nohup" => some Tool.nohup
  | "nproc" => some (Tool.alone Tool.nproc)
  | "printenv" => some (Tool.alone Tool.printenv)
  | "setsid" => some Tool.setsid
  | "sleep" => some (Tool.alone Tool.sleep)
  | "stdbuf" => some Tool.stdbuf
  | "timeout" => some Tool.timeout
  | "tty" => some (Tool.alone Tool.tty)
  | "uname" => some (Tool.alone Tool.uname)
  | "which" => some (Tool.alone Tool.which)
  | "who" => some fun _ _ => pure 0
  | "whoami" => some (Tool.alone (Tool.fixedLine "whoami" "root"))
  | "xargs" => some Tool.xargs
  | _ => none

/-- the tool of a name -/
def tool? (name : String) : Option Tool :=
  [textTool?, contentTool?, fileTool?, systemTool?].findSome? (· name)

end PatternBuild.Shell
