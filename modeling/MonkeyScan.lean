import MonkeyScan.Failure
import MonkeyScan.Main
import MonkeyScan.Scanner.Pool
import MonkeyScan.Proofs.Lexeme
import MonkeyScan.Proofs.Scanner.Tokens
import MonkeyScan.Proofs.Lexeme.Longest
import MonkeyScan.Proofs.Scanner.LongestMatch
import MonkeyScan.Proofs.Position
import MonkeyScan.Proofs.Scanner.Index
import MonkeyScan.Proofs.Scanner.Lossless
import MonkeyScan.Proofs.Scanner.Parts
import MonkeyScan.Proofs.Scanner.Lines
import MonkeyScan.Proofs.Session.WholeText
import MonkeyScan.Proofs.Alphabet
import MonkeyScan.Proofs.Scanner.Seam
import MonkeyScan.Proofs.Scanner.Places
import MonkeyScan.Proofs.Scanner.RoundTrip
import MonkeyScan.Proofs.Scanner.Settled
import MonkeyScan.Proofs.Sink
import MonkeyScan.Proofs.Session.Faults
import MonkeyScan.Proofs.Utf8.Ascii
import MonkeyScan.Proofs.Scanner.LineEnds
import MonkeyScan.Proofs.Session.IllFormed
import MonkeyScan.Proofs.Diagnostic.Layout
import MonkeyScan.Proofs.LineEnds
import MonkeyScan.Proofs.Diagnostic.Character
import MonkeyScan.Proofs.Report.Display
import MonkeyScan.Proofs.Utf8.Strict
import MonkeyScan.Proofs.CommandLine.Call
import MonkeyScan.Proofs.Log
import MonkeyScan.Proofs.Program.Tokens
import MonkeyScan.Proofs.Text.ReadBack
import MonkeyScan.Proofs.Dump.Rows
import MonkeyScan.Proofs.JsonText.Grammar
import MonkeyScan.Proofs.JsonText.Number
import MonkeyScan.Proofs.JsonText.Quoted
import MonkeyScan.Proofs.JsonText.Reader
import MonkeyScan.Proofs.Dump.Json
import MonkeyScan.Proofs.Progress
import MonkeyScan.Proofs.Log.Records
import MonkeyScan.Proofs.Terminal.Elements
import MonkeyScan.Proofs.Session.Colours
import MonkeyScan.Proofs.Diagnostic.Inks
import MonkeyScan.Proofs.Report.Emission
import MonkeyScan.Proofs.Scanner.Runs
