import EfiBootGuard.Libc
import EfiBootGuard.ParseInt
import EfiBootGuard.Ustate
import EfiBootGuard.Journal
import EfiBootGuard.Queue
import EfiBootGuard.Envdata
import EfiBootGuard.Process
import EfiBootGuard.Uservars
import EfiBootGuard.Options
import EfiBootGuard.Replay
import EfiBootGuard.Session
import EfiBootGuard.OutputFields
import EfiBootGuard.Printenv
import EfiBootGuard.UservarDump
