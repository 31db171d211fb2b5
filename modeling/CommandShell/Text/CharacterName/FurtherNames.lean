/-!
# Names of characters: further names

The names in Unicode 14 that characters have beside or instead of their own: corrections, the names
of controls, and abbreviations. They are written in rows as the names of characters are.
-/

namespace CommandShell.Text

/-- The first code point and the shortened names of each row, line by line. -/
def furtherNames : List (Nat × List String) := [
  (0x0, ["aNULLaSTART OF HEADINGjTEXTaEND OF TEXTiRANSMISSIONcQUIRYaACKNOWLEDGEbLERTaBACKSPACE",
    "aCHARACTER TABULATIONaLINE FEEDfTABULATIONaFORM FEEDaCARRIAGE RETURNaSHIFT OUTgIN",
    "aDATA LINK ESCAPEbEVICE CONTROL ONEpTWOqHREEpFOURaNEGATIVE ACKNOWLEDGEaSYNCHRONOUS IDLE",
    "aEND OF TRANSMISSION BLOCKaCANCELaEND OF MEDIUMaSUBSTITUTEaESCAPE",
    "aINFORMATION SEPARATOR FOURwTHREExWOwONEaSP"]),
  (0x7f, ["aDELETEaPADDING CHARACTERaHIGH OCTET PRESETaBREAK PERMITTED HEREaNO BREAK HEREaINDEX",
    "aNEXT LINEaSTART OF SELECTED AREAaEND OF SELECTED AREAaCHARACTER TABULATION SET",
    "vWITH JUSTIFICATIONaLINE TABULATION SETaPARTIAL LINE FORWARDnBACKWARDaREVERSE LINE FEED",
    "aSINGLE SHIFT TWOoHREEaDEVICE CONTROL STRINGaPRIVATE USE ONEmTWOaSET TRANSMIT STATE",
    "aCANCEL CHARACTERaMESSAGE WAITINGaSTART OF GUARDED AREAaEND OF GUARDED AREAaSTART OF STRING",
    "bINGLE GRAPHIC CHARACTER INTRODUCERhCHARACTER INTRODUCERaCONTROL SEQUENCE INTRODUCER",
    "aSTRING TERMINATORaOPERATING SYSTEM COMMANDaPRIVACY MESSAGEaAPPLICATION PROGRAM COMMAND",
    "aNBSP"]),
  (0xad, ["aSHY"]),
  (0x1a2, ["aLATIN CAPITAL LETTER GHAgSMALL LETTER GHA"]),
  (0x34f, ["aCGJ"]),
  (0x61c, ["aALM"]),
  (0x709, ["aSYRIAC SUBLINEAR COLON SKEWED LEFT"]),
  (0xcde, ["aKANNADA LETTER LLLA"]),
  (0xe9d, ["aLAO LETTER FO FON"]),
  (0xe9f, ["aLAO LETTER FO FAY"]),
  (0xea3, ["aLAO LETTER RO"]),
  (0xea5, ["aLAO LETTER LO"]),
  (0xfd0, ["aTIBETAN MARK BKA- SHOG GI MGO RGYAN"]),
  (0x11ec, ["aHANGUL JONGSEONG YESIEUNG-KIYEOKzbSSANGKIYEOKrSSANGYESIEUNGrYESIEUNG-KHIEUKH"]),
  (0x180b, ["aFVS1d2d3aMVSaFVS4"]),
  (0x200b, ["aZWSPcNJcJaLRMaRLM"]),
  (0x202a, ["aLREaRLEaPDFaLROaRLOaNNBSP"]),
  (0x205f, ["aMMSPaWJ"]),
  (0x2066, ["aLRIaRLIaFSIaPDI"]),
  (0x2118, ["aWEIERSTRASS ELLIPTIC FUNCTION"]),
  (0x2448, ["aMICR ON US SYMBOLfDASH SYMBOL"]),
  (0x2b7a, ["aLEFTWARDS TRIANGLE-HEADED ARROW WITH DOUBLE VERTICAL STROKE"]),
  (0x2b7c, ["aRIGHTWARDS TRIANGLE-HEADED ARROW WITH DOUBLE VERTICAL STROKE"]),
  (0xa015, ["aYI SYLLABLE ITERATION MARK"]),
  (0xaa6e, ["aMYANMAR LETTER KHAMTI LLA"]),
  (0xfe00, ["aVS1c2c3c4c5c6c7c8c9c10d1d2d3d4d5d6"]),
  (0xfe18, ["aPRESENTATION FORM FOR VERTICAL RIGHT WHITE LENTICULAR BRACKET"]),
  (0xfeff, ["aBYTE ORDER MARK"]),
  (0x122d4, ["aCUNEIFORM SIGN NU11 TENUuOVER NU11 BUR OVER BUR"]),
  (0x16e56, ["aMEDEFAIDRIN CAPITAL LETTER HzcNG"]),
  (0x16e76, ["aMEDEFAIDRIN SMALL LETTER HzaNG"]),
  (0x1b001, ["aHENTAIGANA LETTER E-1"]),
  (0x1d0c5, ["aBYZANTINE MUSICAL SYMBOL FTHORA SKLIRON CHROMA VASIS"]),
  (0xe0100, ["aVS17d8d9c20d1d2d3d4d5d6d7d8d9c30d1d2d3d4d5d6d7d8d9c40d1d2d3d4d5d6d7d8d9c50d1d2d3",
    "d4d5d6d7d8d9c60d1d2d3d4d5d6d7d8d9c70d1d2d3d4d5d6d7d8d9c80d1d2d3d4d5d6d7d8d9c90d1d2d3d4d5d6",
    "d7d8d9c100e1e2e3e4e5e6e7e8e9d10e1e2e3e4e5e6e7e8e9d20e1e2e3e4e5e6e7e8e9d30e1e2e3e4e5e6e7e8e9",
    "d40e1e2e3e4e5e6e7e8e9d50e1e2e3e4e5e6e7e8e9d60e1e2e3e4e5e6e7e8e9d70e1e2e3e4e5e6e7e8e9d80e1e2",
    "e3e4e5e6e7e8e9d90e1e2e3e4e5e6e7e8e9c200e1e2e3e4e5e6e7e8e9d10e1e2e3e4e5e6e7e8e9d20e1e2e3e4e5",
    "e6e7e8e9d30e1e2e3e4e5e6e7e8e9d40e1e2e3e4e5e6e7e8e9d50e1e2e3e4e5e6"]),
  (0x0, ["aNULaSOHbTXaETXbOTbNQaACKaBELbSaHORIZONTAL TABULATIONaNEW LINEaVERTICAL TABULATIONaFF",
    "aCRaLOCKING-SHIFT ONEoZEROaDLEbC1c2c3c4aNAKaSYNaETBaCANaEOMaSUBaESCaFILE SEPARATOR",
    "aGROUP SEPARATORaRECORD SEPARATORaUNIT SEPARATOR"]),
  (0x7f, ["aDELaPADaHOPaBPHaNBHaINDaNELaSSAaESAaHORIZONTAL TABULATION SETwWITH JUSTIFICATION",
    "aVERTICAL TABULATION SETaPARTIAL LINE DOWNnUPaREVERSE INDEXaSINGLE-SHIFT-2n3aDCS",
    "aPRIVATE USE-1m2aSTSaCCHaMWaSTART OF PROTECTED AREAaEND OF PROTECTED AREAaSOSbGCbCIaCSIaST",
    "aOSCaPMaAPC"]),
  (0xfeff, ["aBOM"]),
  (0x9, ["aHTaEND OF LINEaVT"]),
  (0xe, ["aSObI"]),
  (0x1c, ["aFSaGSaRSaUS"]),
  (0x88, ["aHTScJaVTSaPLDcUaRIaSS2c3"]),
  (0x91, ["aPU1c2"]),
  (0x96, ["aSPAaEPA"]),
  (0xfeff, ["aZWNBSP"]),
  (0x9, ["aTABaLF"]),
  (0xa, ["aNL"]),
  (0xa, ["aEOL"])]

end CommandShell.Text
