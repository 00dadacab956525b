import GraphProbe.Text.Unicode
/-!
# Names of characters

Characters can be written by name, `\N{SNOWMAN}` for `☃`. The names are those of the
Unicode character database that the language's own tables follow (version 14.0), looked up
without regard to case, together with the aliases it accepts (control names such as
`LINE FEED`, abbreviations such as `NBSP`, and corrected names). Ideographs and Hangul
syllables are named by rule: an ideograph by a prefix and its code point in hex, a syllable
by the short names of its leading consonant, vowel and trailing consonant.
-/

namespace GraphProbe.Text

/-- The runs of code points that have a listed name, in order: each run's first code point
and length, packed as `unpackRows` reads them. -/
def namedRuns : List (Nat × Nat) :=
  (unpackRows "%FS!%S%p*%c6t5%0%%,1%%L%;cN%Y:c&%N>%Q0R.%(R:%Q;Q3%EO%7]>%V9YO%Q:QN%REQO%Q99%Q.Q?%6@%DQ1%%:%6N%FQ
5%,[*%UAZI%01%(N%=C%,1%(*%*0%13%((%2)%)%%&*%+N%AQ$%(*%0+%(N%=C%,.!%&!%($%%,%.)%(%%*&%,*%))%,F%AA
%(2%01%(L%=C%,.%&*%+0%13%(!%)&%6*%*6%9.%,+%(0%01%(N%=C%,.%&*%+,%13%(%%0!%+$%&*%+@%BE%&,%.)%(%%+&
%&$%%%%)!%)%%*8%63%,&%(%%*)%+!%5N%@5%49%(N%>3%83%01%(%%1&%&%%)&%&*%*2%7>%=K%(N%>?%1.%+,%01%(%%1&
%,!%&(%*2%15%5<%49%(R2%Q0R1%(*%0:%8:%AQ&%(D%;2%?C%05%&2%01%)0%+.%%4%4(%23%5R@%Q:Q5%Q>Q1%&$%%,%*L
%?Q&%%Q%%?I%*+%%0%,,%21%JS0%QEQC%N*%N)%KO%6&%Q,XH%TEY5%*!%&cL%Y!cE%**%,1%%*%*QF%Q!QE%*Q6%HQ5%**%
,1%%*%*<%6R!%Q6R;%*S!%QAQA%I1%FRJ%R(SG%,q>%b!m?%R2S+%E(%G+%F3%49%($%4T6%R2SO%6!%6F%FS!%R2R+%Q*Q2
%QLQI%FK%6!%6;%(QN%Q%QE%6QJ%Q*I%FC%4R8%Q<*%Q>QC%EI%7$%6,%6H%QLR,%QLQ7%Q*S2%RNRA%Q;R)%8R*%Q?G%Q&Q
;%9Q<%Q*i6%]Fk)%,Q<%NQ;%,(%.3!%%!%%Q8%GQ%%Q2QG%6$%65%+@%;E%(2%0T6%R8T.%4D%BA%6N%Q*!%Q*U(%S8jL%b6
q$%FRQF%QQ,RPE%Ga(%X8_9%Q(R&%*!%&R@%Q;R=%6Q%%GG!+,!%,UB%SHTE%AS!%R7UN%UDY?%6R:%Q=Q%%R(H%R>RI%Q%R
8%R19%R2QE%Q*f@%TP6eG%[y4QZ8%mHQZI%Q<^N%XFWG%T>L%TNY=%&$%%,%CR>%Q:R3%6R,%Q<B%QJRE%8TN%S$T&%GR2%Q
KS+%5Q%%HQ%%Q<QM%6+%2T8%S$S=%LQ$!%,!%5%%,!%,R<%Q<S*%S%U;%V_B@%AQ0%UT?QO%9&%0Q!%AO%*+%%%%&!%&UJ%S
5a0%ZAd?%Q9R;%GQN%Q*8%Q0Q;%:C%,%%*V,%S1V5%%Y!%T?XE!%,!%,)%*,%,!%7&%+4%3B%A3%:G%&@%7$%Q*U,%S%UC%+
R!%Q*R%%R)S=%6=%Q*R*%T,G%FN%Q<O%F6%Q&1%I@%Q*?%E4%OQ&%Q4VJ%SHW$%6Q0%N!%N,%Q*>%Q;QK%3*%65%,.%&8%2,
%65%,.%QA_D%W@^E%FA%F&%+QD%Q$Q=%QJ)%,.%%R%%Q&QO%)$%&Q%%>R4%QLRO%Q5:%:G%+Q:%J1%FQ.%Q=R@%Q8QC%<Q8%
Q.R1%+2%..%(Q0%EQ.%+4%7$%6R@%R2Q+%Q$Q1%;R!%Q5Q+%E&%F$%GQ$%6*%R&S*%S%Q$%Q<!%Q6.%Q2QC%W0Q!%F<%Q$QI
%)$%QLQH%Q*(%Q<E%Q<(%Q*.%FR@%QNQO%Q&Q<%QJS+%&Q*%FC%6R%%Q2QA%@Q!%Q*RD%R3S?%E&%9Q0%R?QE%,1%%*%)<%6
+%7R2%Q<R3%61%),%01%(N%=C%,.%&*%*0%25%(%%)&%+!%*2%.!%0&%S8T*%R.T)%IS,%QLRM%T,R(%Q4E%QDQ:%QLRG%6*
%FR*%Q<R1%Q<H%C=%96%TNQF%SHQ(%R1S=%03%&4%.1%&Q4%EQ3%(:%;&%QL&%0QH%Q*QA%LRL%QL<%R29%X!S$%0QD%Q(Q9
%>D%F*%H9%=5%R&3%,.%&R!%Q)R$%%%%&4%7%%6+%++%&QB%LQA%&,%3,%W@D%TNQ)%6R4%Q;|>%j7xA%RBU$%6Y(%Qk8T?%
RBQT2%k<QX=%R]6m4%UY8A%^Dk?%FO%4S6%QNS5%6N%FQ)%6S%%QLRI%1)%,B%@&%bIS8%T>E%QKI%Q<QK%QM=%6)%SfBv:%
Us8v5%)*%,.%&^F%X!^C%:%%QhBTL%RBT9%6+%6%%2&%Rn(QH%Q*Q&%FT8%T,V,%V(YI%OW6%U)UK%U4R5%FS,%R2RM%SHRJ
%R%A%QDS1%($%&%%((%)6%3;%%2%,RF%Q>RK%*,%.$%,Q!%CQ)%)%%*+%(2%,aJ%X*R1%W!e<%c&s+%*:%lAF%V(Q)%,:%99
%,.%&*%U,QL%Q*Q9%6+%45%WBQ6%Q*Q2%Q;RC%oE2%,)%)&%&@%6XB%TEX?%Q5RJ%QLS)%45%dES*%S83%V&RC%)Q(%BQ+%&
$%&!%%8%11%))%%!%+!%)!!%%!%%(%($%&$%&!!(%!%%%%&$%&*%)*%,)%)!%))%%8%14%<A%((%*>%QAC%V:R!%Q*RB%RBT
$%7!%6!%6Q%%Q)V<%U:VK%Q!D%Q*QA%63%6,%SHQT>%i=QT&%9)%6TL%S%Q1%R2SA%6;%6<%6R(%Q<R+%6Q8%Q*9%FQ3%QLb
(%X6a;%67%,!%,(%6Q%%FI%6.%6,%6&%6$%6VB%S<T5%R,R)%Zlc57%ET<%U4VJ").toList.map fun r => (r.headD 0, r.getD 1 0)

/-- The word being read, if any, added to the words read. -/
def pushWord (cur : Option (List Char)) (out : Array String) : Array String :=
  match cur with
  | some w => out.push (String.ofList w)
  | none => out

/-- Read words written one after another, each as a letter from `a` on, the number of leading
letters it shares with the word before, followed by the rest of its letters. Line breaks only
keep the lines short. -/
def frontWords : List Char → Option (List Char) → Array String → Array String
  | [], cur, out => pushWord cur out
  | c :: rest, cur, out =>
    if 'a' ≤ c && c ≤ 'z' then
      frontWords rest (some ((cur.getD []).take (c.toNat - 'a'.toNat))) (pushWord cur out)
    else if c == '\n' then frontWords rest cur out
    else frontWords rest (cur.map (· ++ [c])) out

/-- The words that occur in more than one listed name: the ten most frequent in order of
frequency, then the next `30 * 91` and then the rest, each group in alphabetical order, written
as `frontWords` reads them. -/
def nameWords : Array String := frontWords "aLETTERaSIGNaWITHaSMALLbYLLABLEaCAPITALaHIEROGLYPHaLATINaARABICaYIa-AbDZUDbKHYILbUMaAb001d2d3d4d5d6
d7d8d9c10d1d2d3d4d5d6d7d8d9c20d1d2d3d4d5d6d7d8d9c30d1d2d3d4d5d6d7d8d9c40d1d2d3d4d5eAd6d7d8d9c50d1d2
d3d4d5d6d7d8d9c60d1d2d3d4d5d6d7d8d9c70b2b301d2d3d4d5d6d7d8d9Ac10d1d2d4d5d6d7d8d9c20d1d2d3d4d5d6d7d8
d9c30d1d3d4d5d6d7d8d9c40d1d2d3d4d5d6d7d8d9c50d1d2d3d4d5d6d7d8d9c60d1d2d3d4d5d6d7d8d9c70d1b501d2d3d4
d5d6d8d9c10d1d2d3d5d6c20d1bAbBc2cBREVIATIONcKHASIANcOVEbCcCENTcEcROPHONICcUTEbDcEGcLAMbEcGEAN
cLA-PILLAcNbFFIXcRICANbGcOGIbHcOMbIcNcRdPLANEcTONbKcURUbLcAYHEfIcBANIANcCHEMICALcEFdPHcIdFcLdAAHUdO
cMOSTcPAPRAANAdHAcTAdERNATEiINGjVEbMcARcPERSANDbNcATOLIANcDcGdERdLEfDcJIcNOTATIONcOcSHEcTICLOCKWISE
eMONYcUDATTAdSVARAbObPLdIcOSTROFOShPHEcPROXIMATElLYbQcUAbRcABIANfC-INDICdMAICcCdHAICgONcISTERAcKTIKO
cMdENIANcOUNDcROWf-TAILfHEADjSfScSEOSbSc-SALAAMcHd2dGABcSYRIANcTERISKdROLOGICALbTcTACHEDeKdICbUbV
cAGRAHAcESTANbWcAYbXEbYcBcINbZUaBbAcAcBYcCKe-TILTEDeHANDeSLANTEDhSHcDcGcHAR2cLdAGdINESEdLeOON
h-SPOKEDfTcMBOOgSdUMcNd2dKeNOTEcRdBdLINEdREDfEdScSEdSAcTdAKdHcYANNAbBAcEbEcAMEDdVERcEdHcGINcHdEHdIND
cIcLLdOWdTcNdDdGALIdTcSIDEcTdAdHdWEENbHAdIKSUKIcEbIcGcLABIALcNDUcRDdGAcSHOPbLACKf-FEATHEREDgLETTER
fFOOTfLETTERcOCKcUEbOcARDcLDdTcNEcOKcPOMOFOcTTLEeOMcWdLdTIEcXbRACKEThEDdHMIdILLEdNCHcEATHgYdVEcICK
dDGEcOKENdWNcUSHbUcBBLEgScDcGINESEcHIDcILDINGcKYcLLETdUGcONcRdUcScTdTONbYcZANTINEbZHIaCb-SIMPLIFIED
bAcAcKEcLENDARdLcMERAcNdADIANdCELLATIONdDRAgBINDUdTILLATIONcPcRdDdETdIANeKdONdRIERcSKETdTLEcT
cUCASIANbCHEbEcDILLAcILINGcNTRALIZATIONfEgDbHAdKMAdMdReACTERjSeIOTeTdSHKAcEdCKfERdEeKSdROKEEdSSeTcI
dCKdEUCHdKIdLDeLUdNeESEcOdRASMIANdSEONGcRISTMASeVIdOAeMAeNONcUbIcEUCcLcMcNcRCLEgDgSeULARfMFLEXcTIbJK
bLANcEFcICKdFFcOCKfWISEdSEfDeINGdTHfESdUDcUBeSdSTER-FINALiINITIALbMbOcLDdONcMBININGdMAeERCIAL
dPLETIONeONENTfSITIONeRESSEDeUTERcNCAVE-SIDEDdJOINEDdSONANTeTANTfRUCTIONdTACTfINhINGhSeOUReROLcO
cPPERdTICcRNERgScUNCILeTINGcVERfINGcWbREDITdSCENTiScOCUSdPdSSfEDh-TAILfINGcYINGdPTOGRAMMICbUcATRILLO
cBEeDcMcNEIFORMcPdPEDcRLeYdRENCYgTdSIVEdVEfDeINGcSPcTbWAdAcIbYPRIOTeO-MINOANcRILLICaDbAcDcGdESHdGER
cHALcLdETfHcMMAfTANcNDAdGdTAJAcPcSHeEDdIAcYdANNAbDAdHALdLdYANNAcDAcHAcObEcCIMALcEdRcGREEgScLdIMITER
dTAcNEdTALeISTRYcPARTINGcSCENDERhINGeRIPTIONdERETcVANAGARIdICEcZHbHAcEbIcAERESISdGONALdLECT-PeYTIKA
dMONDhSdSTOLIdTONIKIcEdSIScFFERENTIALcGAeMMAdITdORGONdRAMfPHcMd2cNdGBATcPLIcRECTgIONcSCdHdKcVESdIDE
gDgReSIONbJEdRVfIbKARbLAbMbOcACHASHMEEcBROcCUMENTcDEKATAcEScGdRAcLLARcMINOcNcTdLESSdSdTEDcUBLEg-LINE
hSTRUCKgDcWNe-POINTINGeWARDiSbRACHMAdGONdUGHTSdWINGScEAMYcUMcYbUcBcGcLcNd3cPLOYANbVOECHELNAYAbWEbYEH
cNAMICcObZcAcEdLOcHAaEb2bAcRdTHcSTeERNcTbBbCcHbEbFbGYPTIANfOLOGICALbHbIcEcGHTfEENfHgSfYbKcFONITIKON
bLcAMITEcBASANcECTRICdMENTdPHANTdVENcLIPSEgIScYMAICbMcOJIcPTYbNcCdLOSINGgUREcDdINGcGcNcTdRYcVELOPEcY
bObPcACTcIDAUREANdGRAPHICcSILONbQUALfSdIHOPPEReLATERALeVALENTbRcAcIN2cRdOR-BARREDbScHd2bTcAcERNITYcH
dIOPICbUbVcENbWbXcCLAMATIONcOcTENDEDfSIONdRA-HIGHgLOWeEMELYbYEdBROWSdGAZE-FLOORPLANEiWALLPLANE
dLASHESdSbZcENcHaFbAcAcCEdINGdTORcLLINGcNEROSIScRSIcTHAfTANcXbEcATHERcEdDcHcMALEcNCEdGcRMATAbIcFTEEN
eHfSeYcGUREcLEdLeERcNALdGERg-POSTgEDgScREdSTcSHeHOOKdTcTAdZPATRICKcVEcXED-FORMbLAGdTeTENEDcEURONdX
cICKcOORdPPYdRALeETTEdURISHdWERcYdINGbOcLDERcMcOdDdTcRdEHEADdKdMeATeEEdTYf-FIVEdWARDcUReTEENfH
bRACTIONdKTURdMEdNKScEEcITUcOGdMdNTf-TILTEDdWNfINGbTHORAbUcLLeWIDTHcNCTIONALaGbAc2cAcBAcDcFcLdIcMMA
cNd2dGIAcPcRcTHERINGcYANNAfUKITTAbBAcEcUbEcARcEcMINATIONcORGIANcRESHcSH2eTINeUbGAcEbHAdINdNcEcHAcOST
cUNNAbIc4cMdELcR2d3cSHbJEbLAGOLIhTICdSScOBEdTTALbOcALcLDdUBCHIKcNDIcRAZDOdGONcTHICbRACEdNTHAdSPeSdVE
cEATfER-THANdEKeNcINNINGcOMNAYAeOKRYZHEVAYAfPOVODNAYAbSUMbTERbUc2cDcEHcJARATIcMcNJALAdUcRdAGEdMUKHI
aHbAcAcEcHcIRcLdANTAdFe-CIRCLEeWIDTHcMMERdZAcNDe-ANGLEfCIRCLEgLAWgUPhRLICUEfFISTgLATfHINGEgOOKfOVAL
eSdGULeZHOUdIFIdUNOOcRdDdKLEANdPOONcTdAFdRANcUbEcADeEDeSTROKEdRTfSdVENeYcBREWcEdLcHcLMETcNGdTAIGANA
cRMIONIANdUcTHcXAGONfRAMbHAbIcEdROGLYPHICdUHcGHcNGEDcPcRAGANAcTTINGbLIbMONGbNAbOcEcLAMdDINGcNcOdKeED
cRAdIeZONTALdNdSEcTcUReGLASSdSEbPbUcB2cMANdPcNDREDhSdGARIANbVbWEbYPHENg-MINUSaIbAbBbCcEcHOScON
bDENTICALdOGRAMhPHjICcIMbEcUNGbGIbHbIbMcAGEcINcPERFECTAjUMfIALbNcCREASEcDEPENDENTeXdICfATORcFINITY
dORMATIONcGcIdTIALcPUTcSCRIPTIONALdERTgIONdIDEdTRUMENTALdULARcTEGRALhTIONeRLINEARfROBANGfSECTION
cVERSEfTEDdISIBLEbOcTAeTEDdIFIEDbQbRcONbScHcOLATEhDdNdSCELESbTcALICcERATIONbUbYbZHEdITSAaJ
b-SIMPLIFIEDbAcCKcPANESEcVANESEcYANNAbEcEdMcGOGANcHbHAdNbIcHVAMULIYAcLbJAbOcINeEDfRcKERcNAdGSEONGcT
cYbUcNGSEONGaKbAc2cAcD3d5cFcIdTHIcKdOcLcNdAdGeXIdNADAcPAdHdPAdYEOUNMIEUMiPHIEUPHjIEUPcRENdOcSKALdRA
fTANcTAKANAi-HIRAGANAdHAKAdOcVYKAcYdAHbEcEcHdEHcNdTIMAhTAcTdTIcYdBOARDbHAdHdMTIdReOSHTHIcEdIcIdEUKH
cMERcOdJKIdKHLOMcUDAWADIdENbIcDcEVANcKAKUIcNdGcRGHIZcSIM5dSeINGcYEOKg-SIOSbKcAbLASMAcYUCHEVAYAbM
bNIFEdGHTcUCKLEhSbOcETcIcMBUVAdIcOcPPAcREANdONISbPAcObRATIMAcYUKOVAYAdZHfEMbSIcSAbUc3cLcOPcRcSHU2cT
bWcAdAcEcIbXAbYAcEEaLbAcAdMcGABeRcIdNGcK-449e617f48dHcLcMdDAdEeDfHcOcPcRGEfSTcSdTcZYbEcADERdFdTHERcE
dRAEWAcFTe-FACINGfHANDfPOINTINGfSHADEDgTEMfTO-RIGHTeWARDScGcIMMAcKcNGAeTHgENERdTICULARcPCHAcSS-THAN
cTdTERScZHbHcAbIcGATUREdHTfNINGcMBeUdMUcNEeAReScPdScSHdUcTHdTLEbJEcUDIJEbLcAcLAbOcCATIONdKcGICAL
dOGRAMcNGeAdSUMcOdPeEDcQcTUScVEcWd-FALLINGdERcZENGEbUc2c3cEcGALcHcLcMcNATEbWAbYcCIANcDIANaMbAcA
cCHINEdRONcDDAcEMeBAcHAAPRAANAeJANIePRANAdJONGcIdLBOXcKASARdSURAcLAYALAMdEdOcNdCHUdDAICgLINGdICHAEAN
cPdIQcRBUTAdCHENdKe-1f2eERdTYRIAcSARAMdHdKcTHEMATICALcYANdEKbBcAdAcEdEcIdTcOdOcUbCHUbEcASUREhDdT
cCHIKcDALdEFAIDRINdIALeEVALeUMcEdEEdMdTEIcGAcMdBERcNdDEcRCURYdOITICcScTRICALcUTbFONbGObIcAOcDd-LEVEL
dDLEg-WELSHcEUMf-PIEUPgSIOScLITARYdLIONScMcNdIMAdNANdUScTbMbNASbOcBILEcDIeFIERcNdGOLIANdKEYdOCULAR
eGRAMhPHeSPACEdTHcOdDdNcUNDeTAINdSEdTHcVEMENTi-DIAGONALjFLOORPLANEjHINGEjWALLPLANEbRACHNAYAcO
bTAVRULIbUcCHcGcLTANIeIMAPfPLEhICATIONfSETcOYcRDAcSHe3dICfALcURDHAJAbVbWAdAcEcIbYAdNMARcSLITEaNb-ARY
cCREEbAcAcBATAEANdLAcGdAdRIcHcMEcNDINAGARIcRdROWcSALfIZATIONhEDdHIdKAPIcTTILIKdURALbDAdAdPcEdEcIcO
dLEcUbEcEcGATIVEcITHERcNcOcPOSTOYANNAYAcSTEDcTcUMEdTRALcWdAdLINEbGcAdAcGAdEeNdOeOdUcIcOdEHdMbHAbI
cEUNf-CIEUCgHIEUHgSIOSgTIKEUTcGHTcKOLSBURGcMcNdDA2dEeTEENfYcZKObJAEMcEdEcIcUbKObNcAcNAbOc-BREAKcOdN
cRdMALdTHcSEcTdATIONdCHEDdEeHEADeScWbRAbSHAdUTbTAPcEEdUMbUcBIANcKTAcMBERdERALgTORfICcNdAVIKdGdUZbV
bWAdAbYAdMcEdHdTcIdAKENGdScOcUbZAaObAbBLIQUEcOLSbCLOCKcRbDDbEbFcFICEbGHAMcONEKbHcMbIcLbJIBWAYbKbLcD
dERbMcEGAcICRONbNcCOMINGcEcUbOcUbPcENe-HEADEDeINGdRATORcPOSINGgTIONbQbRcANGEcEcIGINALdYAcKHONcNAMENT
bSAGEcMANYAcOKAbTcTAVAdOMANbUcTdERdLINEDbVALcEReBAReLAIDgPhPINGgYfINEbWbXcEIAcIAbYaPbAcAcDdAcGEcHAWH
dLAVIcIREDcLATALeUNGdIdMeYRENEcNdSIOScPdERcRdAGRAPHjOSeKALESMAfLITIKIeLLELdENTHESESjISkZEDeSTIGMENON
dTeHIANeIALeYcTAHdHdTERNcUcWdNbEcACEdKScDALdESTALcEcHdEHcNdCILdTAGONgRAMcPETcRdCENTdFECTAhUM
dISPOMENIdMICdPENDICULARdSIANeONcUXbHAdGS-PAdISTOSdReYNGEALdSE-AgBgCgDgEgFcEcIdEUPHcOdENICIANdNEbI
cCTUREcECEdUPf-CIEUCgSIOSk-TIKEUTgTIKEUTcGcIcNGdWHEELcRIGcWRbLAdCEfHOLDERdSTICSdYINGcUSdTObO
cDCHASHIEcETRYcINTfEDgRfINGcKOJIcLEdICEeSHcMMEEcNcOcPcSITIONdTeALcTcUNDdTINGcVODNAYAdYSHEcWERfSbRAM
e-BEIgUONfMUOYfPIIcECEDESdFIXEDdGNANTdSENTATIONcIMEdSHTHAMATRAdZNAKcODUCTdLATIONEdSGEGRAMMENIeTAYA
bSALTERcIdLIbTHAHAbUcACHUEdEcNCTUATIONcRPLEcSHPINcTbWAdAcEcIcOaQbAcAdFcFcMATScRbEbIbOcFcOcPHbUcAD
eRANTfUPLEdRTERhScEENdSTIONcILLeTcOdTATIONcUaRbAcAcCINGcDdIeCALcEcFEcILWAYdNdSEDcMcNGEcPcTdHAcYSbDEL
bEcCEIVERdTANGLEdYCLINGcDcEcFORMEDcGIONALdULUScHcJANGcLATIONcNcPAdEATgEDeTITIONcSHdTcTROFLEXdURNcUX
cVERSEhDbHAcObIcBBONcCEcEULf-HIEUHgKIYEOKgMIEUMgPHIEUPHhIEUPgSIOSgTHIEUTHhIKEUTcGHTf-FACINGgHAND
gPOINTINGgSHADEDkOWEDgTO-LEFTfWARDScIcNGcSHdINGcTSIbNOONbOcCdKeETcDcGcHINGYAcMANcOKdTcSETTEcTATED
fIONi-FLOORPLANEjWALLPLANEdUNDAcUNDfEDbRcAcEHbTAGSbUcBcDIMENTAcMdIcNICdNINGcPEEcSSIANaSbAcAcDdHE
cFETYcGcLdTeIREcMdARITANdEKHdPIcNdDHIdS-SERIFdYAKAcRdAcSAKcTdANGAcURASHTRAcWcYANNAdISIbCANcHEMAdOOL
dWAcISSORScREENdIPTbEcALcBATBEITcCANTdONDdTIONcEdNcGMENThEDdOLcLECTORcMI-VOICEDeBREVISeCIRCLEiULAR
fOLONeDIRECTeMINIMAcPARATORcQUENTIALcRIFScTcUXcVENfTEENgYbGAWbHcAd3dDeDAeEfDeOWEDdFTdKINGdNdR2eADAeP
eUdVIANcCHAcEdEeNePdIdLLdSHfIGcHAcIdDdELDdIdMeAdNdPdRdTAcOdEdGIdOdQdRTfHANDfSdULDERcTAcUd2cWAdEbIcBE
cDDHAMdEeWAYScG4dMAdNWRITINGcIcLHOUETTEdKcMAeLUNGUNeNSISdILARdPLIFIEDcNdGLEg-LINEdHALAcOSe-CIEUC
fKIYEOKfPIEUPfTIKEUTcXdTEENhTHjSeHeYf-FOURTHcYAQbKAMEYTSAcEWEDcLIRONcULLbLANTEDdSHcEEPINGcIGHTLYcOAN
dVOdZHITIEbMILEeINGbNAKEcOUTdWeFLAKEeMANbOcFTcGDIANcLIDUScMPENGcOcRAcTcUNDdRCEdTHf-SLAVEYcYOMBObPACE
eINGdDEScEAKERdECHcHERICALcIRALeITcLITcOKEDdONcREADbQUAREgDgSdEEZEdIGGLEbScAdNGCIEUCfIEUNGfKIYEOK
fNIEUNfPIEUPfSIOSfTIKEUTcIcOcUbTcAFFdReTdTERSeYAcEMdPcICKdGMAdLEcOCKdNEdPeITSAcRAIGHTeNNOeTUMdELAeSS
eTCHEDdIKEdOKEgScUCK-OUTbUcAcBGROUPdJOINEDdLIMATEfNEARdSCRIPTeETeTITUTIONdUNITcCCEEDScITcKUeNcLFURcM
dMATIONcNdDANESEdGcPERSCRIPTgETdRALINEARcRdFACEdROUNDcSPENSIONcUbVcARITAdSTIcETLAYAbWAdAdSHcEATcIRL
bYLLABICSdOTIcMBOLgScNAGMAcRIACaTbAcAdLUJAcBdLEcCKcEcGdALOGdBANWAcHcIdLeEDcK4dRIcLENTSdINGdLeYcMdIL
cNdGSAeUTcRdGETcTWEELcUcVcWbCHEHfEHbEcARDROP-SPOKEDeScDUNGcEdTHcHdEHcLEGRAPHePHONEdUGUcMPUScNdSeEdT
eHdUcSHdSERAcTdARTOSdHdRAGRAMcXTbHc-CREEcAdAeNAdIdLdMdNcEdEdHdNdSEOSePIANdTAcIdEUTHdIdNdRDfSeTEENfY
g-FIVEhSECONDcOdOdRNdUGHTeSANDiScREADeEf-DdOUGHcUdMBfSdNDERcWAeAbIcBETANcCKcEcFINAGHcGERdHTcKEUT
dHAYAcLdDEdEdTINGcMEeScNYcPcRdHUTAcTLObLAcEcHAcIcOcUbOcDOcGETHERcNALdEe-1f2f3f4f5f6f7f8dGUEdOScOdTH
cPd-LIGHTEDdBARcRTOISEcTOcUCHcWARDSbRAdFFICdINdNSPOSITIONdVEL-FLOORPLANEhWALLPLANEcEEdNDdSVETLAYA
cIANGLEi-HEADEDgULARdDENTdGRAMdPLEcOEZENIANdMIKONcUCKdEbScAdDIdTAcEcHAdEGcIcOcUbTcAcEdHeEHcHAeAdOcO
bUcAREGcG2cMcRdKICdNeEDeSTILEdTLEbVRIDObWAdAcEdLFTHSeVEdNTYg-FIVEhTWOcOd-CIRCLEeHEADEDbYPEaUb-SHAPED
b2bAbCbDcATTAbEbGARITICbHbIcGHURbKcRAINIANcUbLUbMcBRELLAcUMbNcDERfBARcIFIEDdONdTbPc-POINTING
cADHMANIYAcPERcSILONcTURNcWARDSbRc2cUdDAbScHbUcEbYGHURaVbAcHcIcNEcREIAdIAfNTfTIONcVbEcDEdICcEcHcRSE
dTICALiLYdYcSSELcWbIcETcNdEcRAMAcSARGAcTHKUQIbOcCALfICcICEDcLAPUKcScWELbRACHYdKHIYAbUcLGARbYcSOKOaW
bAcAcEcLKdLcNCHOcRANGcSLAcTERcUcVEeSdINGdYcWcYbEcEcIGHTcOcSTe-CREEeERNbHEATdELfCHAIRcITEcOLEbIcDE
e-HEADEDdTHcGGLYcNDdEcTHINeOUTbOcMANfScNcOdDeS-CREEcRDdKbRINKLEDhSdSTbUcEbYNNaXbAcNbEcHbIcANGQIbW
bYEEMaYb-CREEbAcAcEcGHcHcJdURVEDICcKcNGcTdIcZHbEcEcHcLLOWcNdISEIcOdRINHIEUHcRdIdUcSIEUNGdTUcZIDI
bFESISbIDDISHcGcNcTcWNbNbOcDdHcOcQcTbPOGEGRAMMENIbUcQcScTbWAdAbYcAaZbAcHcINcLcNABAZARcPYATAYAgOYcTA
cYINbEcEcMLJAcNcROcTAbHAdRcEdEcIdVETEcOcUbIcGZAGbNAMENNYbObQAPHAbUc5bZAaA523d4d5d6d7d8d9c30bAIcNcY
bCADEMYcCOUNTcKNOWLEDGEcTIVATEdUALLYbDULTbEBcDA-PILLAcEcGcKcSCcTcYbKARAcHMIMICbLAPHcEMBICdUTcFAcIEN
cLAAHdIeANCEcVEOLARbMBbNCHORdORAcGLICANAcTARGOMUKHAdENNAdIMONIATEeRESTRICTIONbPcESOcLOUNcODERMA
dSTROFOIcPLEbRADdEAcCHcDHAVISARGAcGIdOSYNTHETONcPEGGIATOcTSbSCENDINGcHEScPIRATIONcYMPTOTICALLY
bTHAPASCANcIUbUEcTOMOBILEbWXbXbYAHcNbZaB001d2d3d4d5d6d7d8d9bADGERcLUDAcSELINEdHKIRcTHTUBdTERYbBIcOcU
dTbCADbEAMdRdTcERdTLEcNZENEcRBERcVERAGEbHETHcObICYCLISTcNARYdDIfNGdOCULARcTdINGbLADEdNKcENDEDcINK
cOCK-2g3g4g5g6g7dODdSSOMdWINGbOARdTcDYcHAIRICcOdKMARKdMERANGdTcTHcUQUETbRAcDAcEADdVIScIGHTNESScOAD
bUILDINGScLLHORNbWAcEEcIbYELORUSSIAN-UKRAINIANbZUNGaCADUCEUScKRAcLYAcMELcNCELdNONcRPENTRYdTcUDATE
dLDRONcYANNAdNbCbDbECAKcEcNTeRELINEcR-WAbHcAAdIRdTcEHdLYUSTKAdVRONcOREVMAcRONOUcURCHbIPcRCLINGcTY
eSCAPEbLINKINGcUSTERbOATcNdGRATULATIONdJOININGdSECUTIVEdVERGINGcOKIEcPRODUCTdYRIGHTbREAMcICKET
cOSSBARgONESfHATCHdWNbULTIVATIONcOPcRLICUEbWEcIIcOdObYcAcPcTaDAAdLIcLATHdDAcMPcP-BEIfUONeMUOYePII
fRAMcRdA3dKeENINGcTdEbBbCHEbDAAcDHAcEcHAAdOcIcUdRbEATHcCORATIONdREASEcIcLETEcMESTVENNYcNOMINATOR
cPARTUREcSERTdKTOPcXIAcYTEROSbHcObIBcFONIAScGRAMMOScMINUTION-1cRECTIONALgLYcSAPPOINTEDdIMOUcVINATION
cZZYbJAbOIcLLScNGcOdRcUBLE-LINEDcVEbRACHMASdMcESScINKdVEcOP-SHADOWEDeLETbUNGbVcOECHELNOPOVODNAYAbZEE
cHEcIcJEcOcUcWEcZEdHEaEAGLEcRSdTHLYbCSbDbGcGcYbHCHAcKAcPAcTAdSAbIGHTIETHScNbJbLIFIcYbMBEDDINGcP
dHASISbNCLOSUREScGINEcT-SHAPEDdERfPRISEbPENTHETICbRASEcENcISbSASAcCAPEcHE3cZbTERONcYbUROePEANbWEbYN
bZSaFAMILYcNcTHERbEIcMININEbIELDcLMcNANCIALbLAMEdTBREADcEXUScIPcUTEeTERINGbOLLOWINGcNTcOTBALLeNOTE
cRKEDdTIETHcUNTAINcXbRENCHdTBOARDbUEcNCTIONcRcSAbWAdAcEEcIaGAETTA-PILLAcHcMALdEcPPEDcRSHUNIcTEcYbBEE
cIcOdObCIGbENERALdIKIcOMETRICALLYcPcRSHAYIMcSTUREbGIcOdPcUdObHAAdDcEUAEcObIBBOUSbLISSANDObNYISbORGI
dTHMIKONcTbRAMcEATERdGORIANcOUNDePcUbUARDcGcLcR7bVbWAcEdEcIbYAScONaHANdDLEcSANTAcTEcVEbBASAbEADSTONE
dRT-SHAPEDcIcNcTdAbGbHAAcWAbIGH-REVERSED-9fSPEEDcIcNdGEcRIQcTcYObLAbMObOCKEYcLEdLOWdOcMOTHETICcRNSdR
cTELbTAbUGGINGcNbWAIRbXITcOPcUObYAcPHENATIONbZaIANcUDAbCHIMATOSbDENTIFICATIONdOGRAPH-4E09m8Ck6253
bEUNG-KIYEOKbGbJcEbKARAbLcIMMUbNHERENTdIBITcNERcTERIORfLACEDfPOLATIONfSECTINGbS-PILLAcSHARbXbYEKaJAA
cDEcRcWbHEHbIIMbJIdEcOcUdTcYbNYAbOObWAaKAAFcBdAcD2cHcPdYEOUNRIEULiSSANGPIEUPcSHMIRIcYANNAcZAKH
bEEPINGcMPLIeULcSH2cUMdXcYCAPbGbHAAdIdKASSIANdNGdPHcHAdOcMUbINNAcPcTbJEbLYUCHgENEPOSTOYANNAYA
bNIGHT-BISHOPhQUEENhROOKbOKcNdTEVMAcRANICcTObPcEdEcIcOOcUbRYUKbU4cNbVAbWEEcIIcOdOaL-SHAPEDbABIALdOR
cEcK-050f79f81dEcMPcNdEeSdTANGcRGERcTERALdINATEcULAcWcYANNAbCEbEANINGcEEEcGETOScLETcNIScSHdSERcUcVEL
bHAAcIcObIDcEcNGdKcQUIDcRAcTTERcWNbJbOCOMOTIVEcGOTYPEcMcOTcW-9dEREDbSbUGGAGEbVbWAAcEcIdIcOdObYRbZ
aM001d2d3d4d5d6d7d8d9c10d1d2d3d4d5d6d7d8d9c20d1d2d3d4d5d6d7d8d9c30d1d2d3d4d5d6d7d8d9c40d1d2d3d4
bADDAHcEdSIcGNIFYINGcHcLAKONcNDARINcQcRdK-3cSH2cYbBANYIcENdUMbCcHANbDUNbECHANICALcEJdTcLONcM-QOPH
cRGEdKHAcSHdOcTALcUNbGBAbHAbICROPHONEcDLINEcEEdUM-KIYEOKgPANSIOScGcIMcLLEcRRORbLAbODIFIER-2j3j4j5j6
cNEYdOFONIASeGRAMMOScPcRTARcTHERdORcVEbPAbUAEdNcCAADbVOPbWcEEcIIcOdObYaNA-2c2cASIKYAYAcEcKAARAcMd2
cNAcQcTIONALcYANNAbBIEbDAMcOObE-2cCKcGATEDcNOEcPTUNEcQUDAAcSTcWSPAPERbGAScEdNcGAAMdEEeUAETdIdUOQcHA
cKAdUEdWAENcONdPdUbIBcEUN-KIYEOKgPANSIOScIbJcAdEMLIdMcEUXcOdOcUAEdEQbKAARAEbODEcRTHERNcTCHdEBOOK
cZHKAbSHIEEcIEEbTAAcOGcUUbU11cAEcENGcLLcTdILLUbWEcIdIcOdObYcAAcEEcHAcIPdTcOPbZUPaOAYbCTAGONbEEcKbIN
bKARAcTObLIGONdVEbMETcISSIONbNE-HUNDRED-AND-SIXTIETHcGcNbOEbPEN-CIRCUIT-OUTPUTfOcTICALbRDINALcNATEbS
bTUbUNCEbVcERLONGeRIDEeSTRUCKbYRANISMAaPAA-PILLAdMcGEScKPAKcLOCHKAcMADAdPHYLIANdUDPODcNGOLATdTIcRA
eLLELOGRAMePHRASEdTNERSHIPcSANGANcTTYcYANNAdEROKbEDESTRIANcLASTONcNNANTdTASEMEcOPLEcPPERcRCUSSIVE
dEVODKAdNINdSONALcSH2dOcTALLEDbHAAcIEUPH-PIEUPdLIPPINEcRASEcURbIASMAcCKcEdUP-CHIEUCHgHIEUHgKIYEOK
gPHIEUPHgSIOS-KIYEOKgTHIEUTHcLCROWcNcPdAEMBAgGBIEEcSELEHcTdCHFORKbLAGIOSdNCKeEcOPHUcUTAbNEUMATAbOLI
dLUcRRECTUScSSESSIONcTATObRECEDEgINGdPONDERANCEcINTfERcOLONGEDdPELLEReORTIONdTOSbSIFISTONbUEcPbWEE
cIIcOObYTaQAIcTANbIIcTSAbOTbUAcEcIdNDICESIMAcOTEcVbWEdEcIaR-CREEbA-2cBBITcCQUETcDIOcISINGcMScNAcY
bBASAbDObEACHdDINGcCORDdTANGULAReILINEARcDUPLICATIONcLAXEDdIEVEDcPLACEMENTcRENGGANcSOURCEdPONSE
dTRICTEDcVOLVINGbGYAeNdINGSbIEEdUL-KAPYEOUNPIEUPhHIEUKHhIYEOK-SIOSgNIEUNgPANSIOShIEUP-SIOS
gSSANGKIYEOKgYEORINHIEUHcKRIKcNGScPPLEbJEbNAMcYINGbOLLEReINGcMANIANcOcTATIONSbREcObULERcMAIbWAdAbY
aS-SHAPEDbA-2cDEcFHAcHcLLAfLLAHOUdTILLOcMBAcNDALdSKRITcPcRIcTELLITEcYbCANDICUScOOTERdTSbEGNOcHcISMA
cLFcMISOFTeVOWELdKATHcRIFcSAMEcXTULAbGABbHA6dAdNGdPESeINGdTcELFdTdUXcIFTdQcOGdPePINGdYcRIeMPcTAPIC
cURcWAAdIeIdOeOcYbIGdMOIDdNScK2cLA3cMULTANEOUScNDHIdNYIIYHEcOS-CHIEUCHfHIEUHfMIEUMfNIEUNfRIEUL
fTHIEUTHcXTHScZEbJEbKATEcIbLICEcOPINGdWcURbMALLERdSHcOKINGbOAPcCIETYcFcLDIERdIDcMcROCHYAcUdTHERN
bPADEdRKLEcEARdCIALcIDERgYdRITUScLAYEDbQUATdIRRELbREDNEbSANGHIEUHfRIEULcEcUUbTAMPEDdNDARDdVROScEAM
cICKINGcOREcRONGcUDYbUBJOINERdSTITUTEcCCEEDdKEDcEcHURcNGLASSESdRISEcPERfVISEcRANGbWcAPPINGcEdETcIdI
cOdObYMBOL-1i1i2i3i4i7i8i9h2i3i4h4h5i0i1i2i3i4h7h8dMETRICaTA-2dROLcBULATIONcMINGcNGENTdNEDcPEcTcXI
cYANNAbCcHEbE-2cLEIAdISHAdOUScNNIScRMINALcTARTIMORIONdRASEMEgIMOUcUAENfQbHEMAfTISMOSdREeMOMETERdTHE
cONGcREE-QUARTERbIGHTLY-CLOSEDcKEUT-CIEUChKIYEOKhPIEUPhRIEULhSIOSdHYcRONIANcTdAcWNbJEbLHEdIdOcVbOQ
cRCULUSdSO-WALLPLANEcTdALcUCHINGfTONEbRACKdDITIONALdMdNSMISSIONdYcEMOLO-1i2i3dSILLOcIANGLE-ROUND
dCOLONdGRAMMOSdSEMEeIMOUdTIMORIONcOKUTASTIdPICALcUNKbSEEcHEeSdOOKcSEcVcWEbTAAdYANNAcHEdIcIcTAcUDDAAG
bUKcOTcPcRBANbWENTIETHjSfY-EIGHTHhFOURhONEhTHREEcIdIcO-WAYdObXWVbYPE-3f4f5f6bZaUBcADAMAbEXcZbKARA
bNDERLINEfTIEcIVERSALcKcNbObPWARDbRANUSbSEDbYbZ3aVAAcMAGOMUKHAbENDcPbICTORYcDAdEOcETNAMESEcNEGAR
cSIGOTHICcYObOICINGcOcUbURaWAITINGcNINGcPcSALLAMcTCHcW-AYIN-RESHcXdINGbCbEARYcDGE-TAILEDcIbHALEbII
cNDOWeUdKINGbOLOSOcOLbRENCHcITINGbULUcObVaXObVAbYAcEaYA-YOcKHcMcNcPcQcRcWNcYcZbEARcSIEUNG-PANSIOS
jSIOSbFENbHEbIEbO-IdYAfEcGHbPOKRISISbRbU-IdYEfOcDHcJcMcOPcWOQbVbWEcIdIcOdOaZA7cAcDERZHKAcKRYTAYAcQEF
cYNbEMLYAbHWEbIBcDAcZ2bJEbLAdMAbOOcTbUPcRbYbZEcIdETcOcU".toList none #[]

/-- The listed names in the order of `namedRuns`. A name begins with a letter from `a` on, the
number of leading words it shares with the name before it; its further words are either
spelled out (a blank between two of them) or stand for a place in `nameWords`, by the letters
`wordLetters` gives. `runMark` and a letter stand for names that each number the one before's
next. A stretch that occurred before is written as a copy of it, as `expandCopies` reads it.
Line breaks only keep the lines short. -/
def nameCode : String := "av,a?WmYas%mYap(#a><#aq[#a/Aa/Ua`Nq@asaq@a/sar-#a<Ra]la@gvVav!a=w|kbpXbyLbx3b@Ub@6buabtmb>vbo_a<Pate
a`_#a?A#a[P#as mYa<S/ua)'!,%d:(d;Id=6d>dd?hd@jd[ed]md^Vd^td`/dm=dntdp>dq'drids'dt2dw2dyPdyzdzGd| d|*
d|]a`Nv8;)asPv!asa,!<:.pam,`la[N.pa)%	!9m=';)az.`lasa,!xFaomv,a^@?WmYa~!g#arB#a=(#a|<#a;3:BatY#a=j
a~#&#a~$W~)s^-a`Q>C/Gs%mYaot#au~]kaREGISTERED#amAa=V#aPLUS-MINUS#avwyLbx3a.s.paMICRO#a~*N#an2>?a;fav
wpXaMASCULINE	!. sd	!.$zD@XpXrzd[mcx3r|a^@s mY	%Q $[Nf.sf<:fxFf=jfsj.nd.wd;I$;fd>d@'=jd]m/*?Pdnt$x
Fdp>h,anc#a)'!p>$v`dyPW*|*$.sdx.b%!u!t2d	!Ku>-#a)%	!K9) =jb'!,%$mAb%(#0#;0b%(#0#pIb%($'!;I$.
sb%(#0#<:b%(#0#>?.nb%*%4#;^b%($'!=60#=60&v`b%($'!>d	!Z (!0!	!Z (!0!|#%*%4!	!o (!
T$^b%($'!@j	!o (!0!u!(#0!u$*%D$fb%($'![ee!(#0!	## (#'!]m$xFb%(#0!	#3 (!0!	!: (!
0!	!| (!0!	#C$@]mb'`f~&$b%'#'!^V	!E (!0 t	!f (!dKRAb'!`/	%T (!0!D!(#0$^0$^0#n2>?b%*%
4!	#B (#'!ntu!(#0!u!(#0$^0$^ePRECEDED;F/Ub'!?4b%% '!p>	#z (!0!	#z (!0#>C.sb%*&'`fpEb%
&!'!s'$> (#0!	!M (!0$^b%($'!t2P!(#0!	$O (!0!a!(#0$^0!a#w@$w@$w@$w@&	$7 (#'!yP
	&X (!0!	#[ (!0!	#[ (!0#sj.nb%*%4!	#p!*%4!	'% (#'!zG	#3 (#'!|*0#|*0&=jd|]$i!(!6 ]
	'[!*%4!	#= (!dm#t2d:(	#8 :($]Ufxjb%+ xjb'!xZuab%'#'!p^p>d;I$]Ub%!(#'!.~=6d=6[&=6$xjdy@=Zb'!s
Q>ddtPdp^>dd?hZ#(!	*Y ]Ud@sb%!]ib'!^Cd]m$v`d^tI#(!d`/$:BdLAMBDA	%+!@m=dnt$`N]U	(( m#sa`V	'P n2xF
f]Z	'S ]Z5 Lb%% '!q'|!($!~/@b'!xZyLb%'#'!?Kb!sQ?Km'	&B q0]U	&T ]U2#0%sM]UdyP$]Zb%!(#'!yndyz$
]Ud|*Q#|*Q#|]	': (#'!?gesQb%!?gsQe$w?b!yL:#xZ@6b%'#!^@[AvV$v`cz~c=]<?c~'-&  D<?csM<?b'!>_$;^d=
6$%	&:#3#b'!~'Gd`/$%!^Vb%. 4 )9dnt4&)9	1v X (#	.: 0 (#	+M 0 (#	)# 0!yP0&=j/DmAb%,'8'.s
b%,'8';^8'i)[Nb%,'dy@>d	!l z$%,'8#>?.n:#.*'!.w$6 (#	'v v`b%(#0!	#4 (!	0. 0!^t	#e#
	*z (!0%	!0 ,('!?gX!(#d^V_#>_	%L#b%!>_	!6 .sb%($'!~%pdz~dnt$[Nb%!(!	#> sj.n	$J .)	#> 6 ($
	8p!J#,'e#>Cw *#y%^@	7=#^@	5b!H$*%4!H$*#	3x!H$*%4!H$*#	1G!H$*%4!H$*%	1/ H#*%
4!H$*#	/^!H$*%4!H$*%	1`!R:[b%*&'!w4&w4&~/>b%& 	6| ;^b%($'	-*%	.M =&b'!prb%!pr	+X ]Ub%
(#	'y%	'u%	8|!fb%(#_ >	(Y$,'8#xF8'xF8&u$*%4'N#.)	1n 6 (#d`/$=&dnt& w2& >@^Vd~#H=zdQP
=z	#  v`d;I	)R (!	7R :BT!kv`	$T w)w?d|](!b'![AvVb%'#'!:(	>> :Bdy@yzd>dq#>dq#^V0!($'!%ri$]Uw?
b%!*$	&I E (#	#8 0 (#dy@,%d/:dy@/:d:($]Ud	3?#=&d=6$w?f]Ud	3 !e@#>ddsQ' g0 <D-#d>@^Vu 	31 t
S@jb!%'@jb%!@sd~+*]Zdy@[ed[i!];$]U	3K#CK ]m	:q#xFf:]fsM]Ud`bdy@m=f$m#`Vdm=$]U	3U#A!Y ntb%!:Ep>
- pEb%!<DpTdqqdy@s'[#g]Uds'+!fw?f@2dsQs'$@2T s'e^@s'	%I ]Ud?K	#9#/D]Ud~,bsQ?Kd?K$=&dy@w2d	3Y%:Bd
	3N$y@yzezGe|*w |*	(n I f=&d?ge$=&b![AvVcqiz=FRICATIVEc^@5!v^;Ic:l<?c%':(	#3 ^>d	$X $]Ue[e	?!!vdy
@^t9 `/	&J#b!	4*#sQ* 	'-!_=zd=f=zd* $=&dy&=zdwg=zd~-G3#?|. 'N&!X=zb!:l~*9cBIDENTAL~*9b%!y@[e$@
2h/Dw?anD!%[ee$]Ud^Vds'	%  / '^@s'dzGd|*crQc>CrQcy@<Rc/UcsQ<Rcsa[msjc`N'![AvV	!y!c`N/icsa/icyj/ic>
G/ic<:.pa;^anD!z.`lcmAc.s.pc[N.pcm,4 dmAd/ d9!xz<Pc[m'!;j	!3 d	!3!yjw8c>Gw8cr-#cn=#a;0a>?.nasj.n
apIa%xFa>Cj anD!RHOTIC]Uc<t.pc%@sd`/dt2d| d	!z!?[xZ:Bc]G'!n0'!m,'!?]'!|I=_xZmYc|4)$~.gcUNASPIR
ATEDc>C/Ucm,>G/idyj/id`N/idsa% jcn2[N.pd>C' e.s.pcm,xFcs2<Pc:U]GxZc?2'!:Um,.!'!~,#cp^& m,`N/ga
<Qd bd b<:.pbxFbmAbq b;0b>?.nb=jb]U.nbsj.nb>CJ!;^bz.`l1!)#ch!;Ub^@;0by@<R.nb%!sQ,&sabG :[b.
s'!`Nw8:[bsaw8.!/G.nb]Zb	%Q :[byj:!>G'!r-#:[bn=& PALATALIZED]Ue M'!>?:[b=[ a!<R:[b;fbpIbz.`
l- 2:[b^@>C~ U/ ^F :.p, 0;!'!xF:[bmA% ,`lb>C'!xFp~bu>v`p~bm#v`.#!.!'!	'[ h#2:[bv8:[bSEAG
ULL:[b| .nbz.xFb>Cq b[NxZmYb.s'![Qq_c_sc=mxec|Sb;2.nb?A#:[	$w!	$3!:[botxF.nb~%i.nb/8?@xV.nb`Nsa/g:[
byp'!GRAPHEME^lbsa/i.n	$i!x ~b| q#i:[?!:[d/Dyj) cF$>?.nsab/s:[b>Csj:[b|v8 C;0:[dcmAd:[cxFc^@;
0csh/g:[b)%!,%e>de]mep>eyPe;Ie=6e[eem=es'ew2eyze| a[Q'!~%Vb%&!'!/`t?b%'#p)#bm.& '!~*'=vb%($|Sb%s
Qm8uMw.c>B)$sQ+%bs mYb'!|Rbxeb=mxe~ :$xeb/K~-Jb'!??$xed?N& ^C& pU& yn,!TL %!^C$=m/Da$d:dd@s
d=Zd??d|ld?Ndx d^Cd_+d`=dn]dp%d|&dpUdqvdsSduMdwOdyndqqd;~drYdpTdu!dyn$=mb%	!] d	!T-yn	!@!d	!>N@*uM
	!C<	#].'^|w.b:dw.bx w.byn$]Uw.d.s/D)!=j)#bqq% vw.bS!!/`_qb%'#!vRb%% !=vb%% !=!; t?b%!t?a<g
'!u*b%% '!~$Vb%&!'!_Lb%% '!]Xb%% '!@vb%% '!u4T 4T #Ub%& a[Q_+w.bsSw.b	&Z!!|Rb'x 1!??= Q)#
d 9b%% 'L#c!t@b%% sS$v`C 	'Z7a=5'!]y$[Nd^Bd>.d[<dy^]yd>ad~!T]md+d^^d`udodd~.*d~&b	Z0 du>yPd~$!d
,%d:Pdz(d[1d=Rd]yd|od|gd]mdu>]md^ud? d?+d?.dp>dqMd?Ed?JdwTdyPd>pd[fdy*d;tdtrdu%d]'#d|Bdu~#d>dd|Td|,b
	aa 	!,|d	#uYb'!pTb%% '!|5b%% '!^E>db%'#'!`t|Vb%'!<!0#)%'!:k0!:k@$:k@$2$_zb%% '!rYb%% '
!@4b%!@4P UL U*!$	5Q b%,('!y]b%% '!t#pTb%'#'!pT$xOb%(#0 ob%% '	)6$x1#a<Q=5xOc	3f$ATIONc=H~*
[crZ& POKRYTIEc]fx1#cn8#a=5'!u>]m$w?b%*&'!~+r#b%'#'!?E$x>b%($'![1$yob%(#0!	]] (!0#n2]Ub%*&'
!|o$=`b%(#0 g0$g0#^u0#^u0&z.w *$4$2%0!~ u^ub%($'!?.e!($'`f?.[1b%($'!qM	!_!*&'!.m[fb%
'!c Jc!($'!wT0!($'!vXyPb%'!.$$v`1$	#h!fR!($'`fwTy*b%($'!;t@!(#0!	#S!*&'!u.b%% '!.m;
tb%'!.!_$*&!~*%	$n ;0b%(#	$9 ]Ub%($'!? 	&; (!0 .@!(#0!@$.@#~&X;tb%(#@ +@!(#d~*%	fJ1
=jb%($'`f,%]yb%($'!]yP!($'!tPb%!tP*!Z!(#	'* 0!|o0$g0$g0#.m>ab%'!	d<0N!(#	Lx#b%($'	GH 
%'!.!@$*%	M_ 2 (#	_h0@!(#	_S2;tD!(#	)] =	)m 	)H!B@#|B@%	H2!b%,'	'N 4#f$0$	*Y (#'!_o=
Rb%'!.!>.b%'!.!~/Zb%(#0#$$b%(#0!`ub%'!.!odb%'!L#,Fb%(#0#-gb%($'!sQ|gb%'!	'` ]Ub%($'
!`k `dH Rb%% '!|.b%% '!rjb%% '!zXb%% '!~ >^ub%(#s!	+>!*#	(J!4&.4%qM	$i ( 	*) 0!(#T!
	`^!*&'!~$)b%& , #Ib%& L  ]!(#a/e'!:%d:^d[7d=7d>nd|^d>sd?MdxVd|od^1d~'Fd|%d;Kd_?d]Od^Xd~%1d~!
ndn%d+dozdtrdz:d;kdqSd~&8ds(d~+odz2d~-fdsCd<Nd|Kdr'd_=dpJd?xbnD!	@X b/Ub~$>mYb?WmYb<R	>A .lmYb%!y@:%
d	!j1	!j~c`f>n|Kc!+$v`b@gvVb]kasb/e?O#a`O(#/e~#t#a]6.pETNAHTAct_cSHALSHELETc~/S~*sdGADOLcTIPEHAcREV
IAcZARQAcPASU YETIVcTEVIRc[(dMUQDAMc~%)cQARNEY~*+c~-KGEDOLU ZERcATNAH HAFUKHcMUNAHcMAHAPAKHc~(BdKE
FULAcDARGAcQADMAd QETANAcYERAH:^YOMOcOLEcILUYcDEHIcZINORbmYMASORA<6br2SHEVAc]+t_dqGdrnc~%`cTSEREct_
cqGcrnc]QdHASER@Lz'cQUBUTSc=:pemVcMETEGbr`MAQAFbr2s/br`PASEQbr2u5>?cuW>?br`~,RPASUQbmYym>?cm.7!p,
	#P Abr2rn~*sb!/1c:cc[8c=>c].cz'c|fc~%Ucwic|Nc@*^zc^zc`?c@*n#cn#c@*p,cp,ct>c:&c@*qMcqMc@*y(cy(crscsK
cu5cwPb|Nxxb`f|G>Cz'dz'|Nd>C|Nbr`[(c~%)a*p(#b#SANAHb~$em]b#~+_cSAMVATbp(mY.na/]<~sxb@Wsxa*~+,a/]qZ~(
P#cwax0#aAFGHANI#a*<Rb~#GthbPOETICz-#b#MISRAc~+b/-WASSALLAMc/-+&RAHMATULLAH/-cs,A* OU ANHUcTAKHALL
USb%]Gw=d`f/1$`<$|:d|`c?qc=@c_2bteb!mYb?2pFwmmYby >?r`mY	*q !~&K|:c[qc/1$mB.ne[q.nczV$( 5 [q:[c|:
0%c:VcwZmWdcwyc^`c[ic_Gc==cwtcsCc|`ct[cu(ct5c=8cw=c|_c/&c[/c_>$yL>A.nex3>A:[c?p|:$^@yzf8#fx3' bwN
b!?xcrmc^zc`<cm~cooc]9czVc/1mLc|:b?rb=Ab_3b?qb=@b_2btubvpb~(*.nb[q.nc:[bvi/1b^@=@bmYoo[4bZWARAKAYbz@
#%yz.nd^@(#>?:[bsQ=@b?q$yL>AbzU[q:[a/]=w|kcpXcyLcx3c@Uc@6cuactmc>vco_a*q[#b=Sthbx1thb@6r3vKb!>@:Vdr
mcvw/1c/1zOd$t .ng:[c]G[qe/1ezVcyP$6 3!|:cy3cy4c:TcwZ$sje	$$ >JcqScw[c:Wc[iP!eyL>Az..ncp6c>[7 
L#cwRcwSc=Mc==c >?:[g/D%w=c=<c=Lc>U: z%e@UV!t'csC$%yzeT$e%yz:[+!/D>?	!8 J ^bJ W%[$B%	&4$h
/Dx3>#5$yL3 e1$w=$*$/&*%>@?xc?x$>?MOVED:[f:[cz,3 q#cqTcrm$>?.ni%_>cw)^zc^z	#N .ncoEc^zR%@pd
$sjcoPc@p	!I!c[]- b$`<$%yzeu&	%L oo$>?:[d[4csncoo	%7%c]9>5cwR$>?-!$|:.nd[Ce	%s wZmW[CczV$sjc_[pE
cpEcyPc|Tc_[|T9 	$N!z(c?p|:c|:$w?e%yzczVv#>dc|:	#,!d:F|#	3O !.wb%]G`ft5$`<$/1mLerm+%dm~^2@Od`</1
d^`dd dt[b?2pF~ fbvLpFt*? HIZBh t$|kdUPRIGHT~+2|kd>@]/pF_Gk L@Ocm,t[c]GmBczVc|:c]G|:doobr)pFSAJDA
Hb?-;im,vVd]GvVbt$' $FILLED;ib%m,m~b!==$^@yzcsC(!a?Y	*= dpXdyLdx3d@Ud@6duadtmd>vdo_a*!u($>?:[c=8
(#[/(!b#~,</AdPOSTPOSITIONn%b!]9	!# w1?2pFq:bvy@gvVbvh'#y<Pbvh<Pb]Y<Pb<Puj`Ndsabvy,#=!ujsabCONT
RACz b](OBELUScMET*$ASTERISCUS	9S !~ <cvw& :ec~$vd~$yc~#:c>@~#:skc].czVc|`c]?cwk?#/Dd].c_*cLAMAD
Hcn9cp,c~+tc@*& >dcqMcsQqMct6cQAPHcskcu5cwQcqb~!)dGHAMALdDHALATHbr[.nc:[c>Bb|y+&~+-,!b>B~/]]YdANG
ULARb~%P9#HBASA-ESASAP $H7#RWAHAb~$W>?bQUSHSHAYAbRUKKAKHAbyLz.>A.ne:[b	)e d:[bp@`l*#nibBARREKHb!
v ZHAINd~&Zd?ta*!:V$T HORIZONTALLY	-@$x3	23$r5yp:[j/D	2G!' 	-A$^@%yz	.  c[i$yLW,c==5!z/S %w=R%
csC$v`ct[	.>#/&_+>J	0##/.nc?x	.>!	!!'_>$	,l'6$m~6!f	,| V$%w=fyzc`<$:BcsC$z#	5h#t[1&c[i$%*!w=:[
i	#_ ct[2#/$sC/)P&	6K 	*B yL.nhx3.n	5] 5'i5 i@U:[czVM.|::FM-c[i3$V!t[.&.ne^@yzc^z	$I!awr!
[gcSHAVIYANIcNOONUcs)c:*cL6&KAAFUcALIFUcVAAVUcMEEMUcF8!DHAALUcwqcLAAMUcG6!GN_%SEENUcD/%Z)%T)%
|-cP,%J)%CH*%~.0c~%Xc~&VcT	!2 ~/PcSHy!SAADHUcD'#xVc|xcAINUcGH'!QAAFUcWAAVUbABAFILIbAABA*#IBI
(!EEBEE*!UBU(!OOBOO<#BE(#YBEY<#BO(#ABOi#vpb!nxaoh	8b:b!,%c>oc]mc>dcyPcpZcp>cDAGBASINNAcntc:)
cq(cw3c^Xc;kc=7cs(ct&ct3c@~c?ic^uc`0cnw~.~cm>cp3cnwc[fczHc|,cp38 ^n^Xd;kds(b<Qu>]GxZdm,xZdslxZcm#=a
xZd6,o(mYc>C>?.nb; /Ubm,'!w.pZDENNENcGBAKURUNENb<R	HT LAJANYALANbDANTA+$OROME#bTAMAN#at=!ALAFc~!
0cG3 cDALATc^Sc:*c|jc^Oc~-dc|Wc~&CcLABAT	0)!SINGAK (c@ cTSAADIYcQUFcskct|cTAAFbmY^(cIN-ALAFcOCCLUS
IONc=:bnD!~$D|WbmY(#z@#m#>dd>dd~)y.idm#.id.i. ,%dm#,%d,%X u>,%O u>8!yPdyP8 ]mf#]md]mdp>dvpbmY
~)#br`~)#cAFSAAQcANGEDcBAUcATMAAUcSHIYYAALAA	3> r`MELODIC~*ucZIQAAc*!AEFcTURUcARKAANUc~,RMASHFAATcA
NNAAUamR!HALQAc.jc/ c.tc/#cUSHENNAc~ hc^OcATTcAKSAc/*c/,c/?c/Bc/mc^(c~ McASZc/Xc/Zc/oc/ucD`%KADc/&b
AF	zv!ONmYbVOCALIZ/%[&mYbr`aw1!mMoFd^Xdp3dy1dojdokd:gds(d`xd`ydv>a*!/1$/v?qfxhsa?qesan2v`e`N'!/v_2
f;$sa_2ft#>?.nfsa) f`N' 5!:[	<z /ve#	2i k$/D<$g#/#fI%`NsjI$-#I&/#fsa[qf`N[qbwN$~)|[qezV
d	2! b!x%|:b~ tt#>?bs2'!!oo$^@	4'!	3`#w=$>?:[	Ez#_>	4,$bz.w?brBmY.nbPIASTRE,!%]GzuAL-JUZcm,zuISHMA
AMeIMAALAeTASHEELbmBWAAJIBbvw/1MOKHASSASb>FmBb[mmBpwmBb!:V$%yz:[	3b ^`	?.#w=*%?x$	6['crm0!c`<$>C:B
cm~$:$|:$	6e#o i>?.ncsC$m'	?l zlcsu|:cm,/1c==	B!#t5	B,%$^@v`cvXzVc|`$^@yz	CF A$^z	!B rm	!Z!ol>A.n
c:V$%m~.ncqS)$wZ$%wZ	!F %oo	!e)1#.~?xdrmdooW!yzcwZ'!y3.#R'!_>'![/	#R#.~rm,%^`$	CY%`<	6R$GRAF
b%?p|:c]G' d|::F	!G!dzu~+`d|_b`Ct#>?	;@ vp:[b`C<6:[c6 ^7+ b%m,zVc]GzuAR-RUBdt5d/&	## $_2cm,(!B#
TH-T	=S AeAS-SAJDAeAN-NISFeSAKTAeQIFeWAQFAd~$em]d#~+_bDISPUTED	CM#y@=@:[b='	Nz#c?rc=Ac_3bxZpX>?.nc
	&z!m'.nc3 :[c	Ft!m':[bp^S&%]GzVb?q$sjd[ b_2$>?	z1!.n	zP!	z?)b>C7#f$>?B$* =@& mYuKoo[4a=d#^@;
Uc;Uc/Pcz8b!u>,%c,%c.ic]mc^ cyPcywcz<s'd`/c;T>dcu>>dc>dc/%c;Tp>cu>p>cp>c/yc^uc_Fc@kc[.coFc;Kc;kc^Xc^
ccp3cy1cy5c=Kc=Pcojcw3cwpc=7c=gcnwcokcq(cqec:)c:gcm>c|,	65!`0c`xc`ycy|ctrcv>ct3c[fbz@#pEd~)ob#p'c/|
1 .id]md^ dyPdywdz<s'et%d;T>ddu>	3B /0 p>du>p>dp>d/yb#z7_ rR>dd: bpSbv]#yVd/Ob!'d#A ;Tm#>ddyWdy
xb!rjc~&[c[2c|^c~#KcsRc?ic|[cz<t%d`wS z<`/e`wb=Bb>C=Bb	9N;.l#b#]Gv->?b!;T,%cpEc~)oc: cyWcyxcMARWARI
=Kc|mc]5|,c[,c^hc[AvVc=Oc:Na:`/Ib#	&3%	&.4	&$ 	%v^	%s1`0	%g'	%]<	%R 	%H&!KHANDAw3b/y`ZmYb!t&csR	$s2
	=<<s($n2=kem.=kbt0mYc#b=(p*	L9'pXLESSwvww~#Xc~#Xubb~&1bGANDAmYb!z*/Pb.l#btAmYa[d#ADAK~!-c~!-	% 2>oc
/%cpZ	$ut`x	)e 	$x%	$u.>od/%dpZ	$m!cUDAATb!	(f%t&c?i	$U<TIPPIbADDAKbIRIbURAb>|ONKARb#YAKASHb.l#a[^
	(#?bz@;T>db!>dc/%.!p>b!p>	$;y	(9I;T	,p&	,k(pSb!	(,M	'< 0#b!|mb#vpctuc~(*cTHREE-DOTp'.nc<6'!yM' a
pi	+aF	$N|	+gXcq b/%`ZmY	+ga~&1b!zHb!dt(cpXucd>xcx3udawH#	$I4>d	+0#>	+3$	$>!^X	$8 	$/ 	3_$	3U?	*m/d
	*p#>dpZ	'@%	#r!	#T<p(wacpX]fdx0b=I#bnL#b~/5#bDEBIT#b<o#b/m.n	'Z p(#aw_#<Q;U.n	70$c<Q/P.n	'A6	$ '
	.3^	7 <	'MK	$W2`ZmY	'U#!y'c>`cRRRAc~(p~*^	'WO#uIb@XF @LpDrGpF@UdpX-(yL-(x3G,?TG&-(x3-'b#TUUM
Ua_(#v-	;i&cuI	%UB	%U~	%Rp	%G!?i	%JP^fcylamM#<Q/P	) &	6? c	$FU	?!~c~.5b#z.:Bz7c<9z7	$YO!>?REPHb#~*+b
!<%m=d|*dLLL	- #@XpX~)ld~$gcx3~$7cpX~.;dwe/ .<cpX@#b!/`^ 	%4.	-aH	0=7b~#GmYb!<%oidntdt%d`/d`wd^tauZ
#;UcANUSVARAYAcVISARGAYAb!AYANNAcA(%E(%)$I'$($U'$U7$R)&3&L)&3%l$t%Am$O'$O7$N$/9~&Lc
mE& /9@zcmE@zcKANTAJA~(nctC@zF !acmE& /9^]cmE^]cw5~(ndSANYOOGA NAAKSIKYAYActC^]V .1cmE& /9=NcmE
=Ncnk~(vctC=NA -FA -FA JA Jc=DA$JA *c!*c :McmE:McM	$O#MBA:McY/$R(#a '1cV.$w5tKcnktKc=DtK
cH7$nkE F.#b#AL-LAKUNAbz@#.yd_C~ 3d=u~ 3, &0, &0, * d=u& ~$td_nd=u_ndKOMBU DEKAd_n[g.yf=u.yf@
|d@|b`s	m]:bz@#=u~$te@|br`KUNDDALIYAaws;o_k^|c_P~&WdKHUATdKHWAIdKHONdRAKHANGcoONGUc<(CHANdCHINGdC9!
u|u|8!OEc|MYINGc>4CHADAcxVPATAKcx,wvdNANGMONTHOdPHUTHAOcolo;c>4DEKcxVTAOcx,THUNGdTHAHANd~-Ycolp%c:x
BAIMAIcr/r(cqsPF c@F?i-!ANc@F~$TcqsSAMP~ nAm>c|M|3csoRUAct)c`z~'Acm0cznWAENcu|SALAdRUSIdvdc]O]Ic`
zCHULAcp>/Ec]ONOKHUKcP	), OIctE,%cmIHAN-AKATctE.id/?	-_#WdUEE	-f cPHINTHUb=(w.BAHTb;otE>dd.wdp>d/%MA
IMUANe( ALAIcLAKKHANGYAOcMAIYAMOK) TAIKHUcmI>|dx,dTRIdCHATTAWAcTHANTHAKHATcNIKHAHITcYAMAKKANcFONGM
AN	-s<;oANGKHANKHUcKHOMUTa`A!_kc_PvvdwGcq2[.coOc<Ncq2;kcu|5!^ccp;cq2	]o y5d=Kd=Pdojc>4cxVcx,`%=gco
lc:xcr/cqsvvc@F8 swGc@Fvvcq2:gcnAc|M	%^ d~'Kcznc~+ftrdv>cu|vvc]OK!`xcp>c]OwGb?)bz@#,%dmI_$d	%B'|*d
|Z	%A b#q2	Od mI~&ib~+s#`zdp;3 >dd>tdp>d:$d/%b_k`0bxZ	%##x<dCATAWAb;SmYbNIGGAHITA	$e<]OolcnAb!~&^[B
dp;ax=&pSbmY[X|Hn-TRUNCATED,%f,$~+M~ ~m>g[Xy,m>c^2D ~(;m>c<E,!+xm>c;Z,!*Dttm>c, y,+!SBRULttcBSK
UR8 cBKA-~,(,!INTERSYLLABICy,c=Yy,BSTARcttcp:ttcy,*!'!RIN CHEN SPUNGSttc~+=~%G ;Z,!t(mpm#;Qc[Xy
,b~'I#CHADt(dLHAGt(b/t#SGRA GCAN -CHARt(d-KHYUDq(dSDONG TSHUGSb#s9>1~%$e~%6e[Wdn|-$d>1s9n|	$w;c[m
	.w5d|kbmYBSDUSt(c~)&~!Up8~/[	#1!;H~(N;Q:$SGORt(c;tn-cy'-PHRUc~%At(~%Je~%Ic/E~&Y-$b#~/1~.+c~(2~.+b
!	:H2	=kLy'cy+c>`c>cczHc|mc|^c, 	Sf0c,%c_|c@7s(c_cct&	:K5e`/e`	F:!	:N b#RJESvcoFsoc	(! ` sQ]me^ b#p
8~/[nx=7cSNA LDANbmY[lcPALUTAb#LCIt(c|4t(c~'2y';Qcmo;Qc~%?;Q~+?dMED~+?c^@7 bvf#G$d0 d7#c!^ud_Fd@
kd[.doFd;Kd;kd^Xd	-.,dw3dwpd=7d=gdnwdq(dqed:)d:gdm>dy'dy+d>`d>cdzHd|md|^d, d|,ds(d`0dtrdv>dt3d[fd,%d
_|d@7zHe|,es(b_~t)_Fe	&l!b;V#]5~!#d`g& CANG TE-UdSBUB -CHALbw.DRIL;6c~+.~+LcPADMA GDAN2$	*  c~*Dq(
cop;6ep:,#e[W,#e;H,#b#s9n|s9>1e[WbmYBS	+C [5n-~+>cMNYAM|H/%p:y,c^2~!J~+N	,T'2#	,Z$asbw%#a`Ow%#,#$
>Aa`O)$x=mYLEADING~(:t(cTRAIL.%anr!	B:9NNYA	PdRzH	([!`xc,%ct|,%	Ni+nE>d	R/ bz@#wE.id	N$-/%dnE^ ep>
d>d.nb#/Pc>?:[cz8cz7cASATb<[#mw|,es(ezHe[fb![Ot3	Er=`ttYctYbw.LO!oJ COMPLETEDcAFOREMENTIONEDcGENI
B b!	+' z<s'	Ai 	Bz!	*k(b!nEoFd^cd:Nd:Ob<[#nEmwnwfm>f`0b!tp_/trX * ?RbxZmY+ HATHIf_;qsb!z_rh_/wp
frdJ /#?RgyWb-$x[$b!>j, ojf|XfGHWAM GEBA_/]md_:pEeyPe>ob!t|	*q$;Kd|^dp3d=7dnwdqed?id:)dwpd[fb<
[#t|mwzHl t|.ie>df.ne@*|*b#t|x] dx` d<j, eEMPHATICxZb!~+Wq1?ib#)!x`bt|	?';#_Hx[dx^bz@#/),%e/%bw
.t|pXd?Wa[''!/Bd:>d@td>>d?.dz5d|jdwId^(d_$d`EdmPdo%dpVdq9d|nds.dt@dwLdyddqhd_Id[0drodu5d<&d;Qd^gd<3d
;nd|#d^dd[hd].d]DdzXd]&d]Pd|Ld.zb!/Bc:>c@tc>>c?.cz5c|jcwIc^(c_$c`EcmPco%cpVcq9c|ncs.ct@cwLcydcqhc_Ic
[0crocu5c<&c;Qc^gc<3c;nc|#c^dc[hc].c]DczXc]&c]Pc@ c|Lc~$:cy@@tc/&bq:thanD!['o%a['!.zc]'#c~&~#a]!<*_`
cvAcoTcxCcvEcsWcn4cqycvCcu[cvDc]zc<2cv?c<!c_Ncx#cqrc]Fc~)6cvBcoXcNIEUN-PIEUPc~-^c~+Dc~,fcsXc~&Icn5c_
,c~*JcC!-O!cr cq|c~*Lcq~9$SIOSh#1%SANG6 A)CIEUCcqzc~*Hc~*Mc~*Kc_.c~&Jcu^c~,Acu`c~,Bc~,@cu_c
x'-KIYEOK2!	!#%/#IEUNGcu]c~,>2#KHIEUKHc~,Ce$Hf 1 ?cCHITUEUMb -&t'CEONGCP M0*E*q6c~&!cIE
UNG-TIKEUT-$MI ,#	$  ,$W 7%AN.!v@1#	$( ,%H- H~%. T.$	#1$|CcS!-7!	#/$h!	#=)3!	#.'1+
G+	!A!	$N#0&' Hy&6$v&3(~*Ac_-c~,ec|?c	%h 	$.#oWcoUcoVc~-`c@)b^s@)c,%c.wc|,c|.c?:c>dc|>c|8cp>c
zHczJcpEc|McyPcz[czXczec|Tc?Rc+c]mcA-OcA-UcY) ~/+cEO-O% U% EUcY1!Y2!O-EO% cO-YEc8 6 ~/<c~/=c
Y6 OcYOk!;cU-A$ EcU-l#U-Y- UcY; Y7 &!c~/Cc~/BcYUp!AcE) EUU YI-UcI-AcI-Y% Oc1#E6!RAEAc~
 Tc*!-EO)$U($IcSSANGH#Aq!A-	#@ YAc%&Eb^o	,B _acoT	$w!xCcsWcsYcsZcs]cs^cs_cs[csX	,^!q|	,^'	,Z*
	%r#RIEUL-$	+V ,#c~)6coXcoWc~)7	-# 	(P#	-% -`c~+Cc~+Dcs`ci!	&e!	'N!~,f7#	)~ z$3)	*  ~+F5#	,@ 
_%+A6#	,D&~+Ec~+Bc~+Hc~(Lcf!	#.!n5cn62#R)(M4#	*e#.#	!*!_,	.> d$~*Kc~*Ic_.cu^	.*#u_	,C(	!! 
	#6 	+s$	*>$|Cc~/7c~/6	)t#9 H	0! ,#	!2 ,#	-( ,#	-( 	*D%T#-$=#-$	#6#/$	!C!/%	#F!vBa?Q&[fc]b
c]Cc[gc]7c].c]OcHOAc`0cm0c`ec`1c`Lc`Hc`zcm9c]BcHHUcHHIc~%XcHHEEcHH$ Oc~%Ycm>cn]cn.cm?cmzcmpcnAcnmcS
ZAcSZUcSZI, - EEcSZ$ OcSZWAcs(ct)csTcs)cs?cs:csoc~+Xct3cvccuGct4ctZctTcu|cw'ctrcuCcu/c~+zcu'cu&cu
9cuEcrjcrvcrqcrkcQEEcrpcrrcQOAcQWAc~+#( ) !c~+ cQHAcQHUcQHI, - EEcQH$ OcQHWA% I*!+!EE&!c:)c
;6c:jc:*c:Sc:Pc:xc~!Qcy|czCcz3c~.[cz+cz(cz:cVWAcw3cy9cx<cw4cwXcwTcxVcyDc;Kc<zc<1c;Lc~!fc;ec<Nc=0c|!c
XUc|&cXAAcXEEc|$c~/'cXOAcXW$ I( ) EE% cnwcp%coScnxco8co7colcp1cp3cp<cp8c~)Yc~)Zcp5cp;cNYWAc[A,%d
yPd]md.id>od>ddp>dzHc^uc_~c_Uc^wc_<c_;c_kcKOAc`(c`+c`)c~&wc`*c`,cKXUcKXIcKXAAcKXEEcKX$ OcKXWA% I
*!+!EE&!czHczzczeczIczYczXczncWOAcqi	!Z/c|^c|zc|uc~/Pc|hc|gc|xcZWAc|mc|tc|qcZHAAc|pc|oc|scZH< ,c
|Tc+c|-c|9c|8c|McYOAc=7c>Rc=ic~#8c=Tc=Rc>4cDWAc=Kc~#Pc~#Oc~#JcDDEEc~#Lc=QcD@ ^Xc^rc^ec~&4c^_c^^c^ic
~&Bc@kc[Yc[5c@mc[%c[#c[BcGOAc~%Ec~%HcGWA- Gc~%Fc[,c~%.c~%+cGGAAcGGEEc[-c~%,cGJ!wpcx6cx!cwqcwxcwwcx
,cx:c;kc<0c;~c~!kc;wc;tc<(cCHWAcqecPHUcqqc~*@cPHEEcqpcqscP> y'cy/cy-cTSAAc~.)cy*cy.cTSWAcTZ$ UcTZI
, - EEcTZ$ O$ Ac?ic@fc@ c?jc?vc?tc@Fc~$pcq(cr]cqvcq)cqRcqMcr/crdcRYAcnqcFYAb<Q[&/Dz@`ZmYc'$[&mY
btYmYbWORDSPACEb@gvVb<Rbteb<PbPREFACE<Pbs mYbq:thb=w	ie;yIcx)c@Rc@%cufctoc>zcoac]fcwax0b&tVnmcnpc~(g
cnoctV~!Qc~!Sc~!RcBWE2 $pc~$sc~$rcF2!rdcrgc~*ncrfbxYmYYIZETdDERETd~+Idu>& DIFATdKENATdCHI= HID
I%-,#KURTa;y!,%c>dc]mcp>cyPcyzc@kc^uc[#c[5c[Bc[Yc~%Dc[fc].c]Cc]Oc]bc]ic`0c`Hc`ec`zcm0c~'Pcm>cmpcn.
cnAcn]cnwc]Nco!co7coScolcp%cp0c~*wc~*xc~*ycs$cs&c~*~ct3ct2ctTcuGcu|cvccw#c=7cw3c=RcwTc=icx<c>4c>Rc~#
|c>2cxPcxQcxScxTcxUc~-kcy'cy*cy-cy.cy/c~..czH	<H!znczzc~/&c|,c|8c+c|Mc|Tc~/Icnlb%!|8d+d|Md|Td~/Idnla
;Rw,]kc>dc~ )	Nr 	rP!|+pZc;_>od]m	s+!zXcz^	!1!^zec~.xcz^&!ncz^% r( rco+* Hcz^% I( I5 Ic/%c|+z
Gc[AvVc@*.sd[Nd;$[msjdxh'!sa'#jd>C.seu>z.vadn2>?du>]Yv`dr-d>Gw8c?.c^(cpVc/BcqMcPAAIcqvcr#cr/cr<c|+
r<c;_]7d]Ccq(cq)crfcz^rfcrg( gc~*ocz^& rh2 hc~*p2!pcrd2 dcre( ep ecq'cz^q'c;_[ecwTcTAAIcx<cTI
IcxVcxfc|+xfc;_=Td=icw3cw4cyFcz^yFc~.Acz^& ~.B*!BcyL< Lc~.D2!DcyD2 DcyE( Eco+yEcw2cy2c~.4cy8cy
1c_;cKAAIc_UcKIIc_kc_pc|+_pc^uc^wc`*cz^`*c`+( +c~&xcz^& ~&y*!yc~&z*!zc`(F (c`)( )co+`)c^tc`'cv
*_=dKIHdKOHd~&Gc;ecCAAIc<1cCIIc<Nc<ec|+<ec;Kc;Lc~#0cz^& =2cz^=2c~#12!1c~#2*!4 3*!3c=0F 0c=1( 
1co+=1c;IctLwncmpcMAAIcn.cMIIcnAcnMc|+nMcm>cm?cnocz^nocnp( pc~(hcz^& ~(i*!ic~(j*!jcnmF mcnn( n
co+nncm=cz^m=cMHc~ `m=ctLm=co7cNAAIcoSc~)8colconc|+oncnwcnxc~)Scz^& p1cz^p1cp2( 2co+p2cntc;_oEcNHc
`HcLk `ecLIIc`zcm&c|+m	|' 1c~'Rcz^& ~'S*!Sc~'T*!Tc~'U*!Uc~'V*!Vcm9cz^m9c~'Q2!Qc`/cz^`/cmw`/ct
TcSAAIcuGcuOcu|cv$c|+v$ct3ct4c~-!cz^& ~-$*!$c~-%*!%c~-&*!&c~-'*!'cw) w'cw(( (co+w(ct2c~ `& ,
~c:tt2cMOOSE-CREE SKco+SKWdS-WdSPWAdST% K% CWAcu&cu/cu2cu9cu<ctr	>? Fcz^uFc~,1cz^& ~,2*!2c~,3*!
3c~,4*!4cuEP Ec~,02!0ctqc|8cYAAIc+cYIIc|Mc|Pc|+% ,c|-c~/Jcz^& ~/K*!Kc~/L*!Lc~/M*!Mc~/N*!Nc|
Xcz^|Xc|Y( Yco+|Yc|*cBIBL	#[ |*: *ctL+cs:c~+$s:cz^`HcRAAIcsTcsi	A7 R7 zcs(cs)+ 0c~+x & s'cz^s'
cmws'c?tcF] @ cFIIc@Fc@Ic?ic?jc~$qcz^& ?hcwwcnvwwcx!cnvx!cx$( $cx,cx-cwpcwqcx;cz^x;cwnc~.2c~.3cy7
cy5cTTHcTYEcTYIcTYOcTYAcp-].d]Cd~%]d]Od]Td[fd[gd[ecNUNAVUT[ecHKcQAAIcrqc~*tcrrcrtcrjcrkcric~-hc~-( 
jcxRcz^s:dsTdsods(cNGY oNcNGIIcoOcNGOOcoFcoGcoEcNNGctLu&du/du9dtrcztwwdx!dx,dwpdwnc~'=cLHIIc~'>cLHO
Oc`dc~'<c`ccwoM$$P x-S!qV AIVILIK:(c:t>d!W[ ,%dzXdzedzndzHdo7doSdoldnwd_;d_Ud_kd^uctL	$$ ]Od[fc
;_GHUd~%3d[1dGHEEdGHId[.dt)dsods:ds?dsTds(dzz|!XdzYdzedzHdHWUdHWOd]jdHWEEdHWIdHWAdx6dx,dwwdwxdx!dwp
dTTUdy8dy2dTTEEd~.4dy1dr]dr/dqMdqRdqvdq(dq'd[Yd[Bd[#d[%d[5d@kdKHUd_Pd_KdKHEEd_Md_FdKKUdKKOdKKE$ % 
Id_cd_bdp%doldo7do8doSdnwdn]dnAdmpdmzdn.dm>d|Td|Md|8d|9d+d|,d^rctL^rc;_^id^^d^_d^e3 e3 Xd~&=d~&<dJ
JE$ Ed~&:d^hdm0d`zd`Hd`Ld`ed`0dDLUdDLOdDLE$ % Id>2dLHUd~'>dLHEdLHc '=d`ddT9!-jd~-hdT:#-idxRdxU
dxTdxQdTh xSdxPd|zd|xd|gd|hd|ud|^d|]d^2|]d~$&d~$%d>ad~$ d~$#d>`dvcdu|dtTdtZduGdt3duCdu9du&du'du/dtr
dtqdy/dy.dy*d~.)dy-dy'd<0d<(d;td;wd;~d;kdTTSU% O% E%!&!I% Ac;~#c@gvVc~*rcNGAIcNNG%#&!O%!&!A
%!AcztTHWf HWI%!&!O%!Odx:dx;d@*wnc:tzGapHv,mYb!BEITHcLUIScFEARNcSAILcNIONcUATHcDAIRcTINNEcCOLLc
CEIRTcMUINcGORTcNGEADALcSTRAIFcRj AILMc~)ncyqcEADHADHcIO(#EAB(!pecUILLEANNcIFINcEAMHANCHOLLcPEITH
b?umYbsQ' at.!FEHU FEOH?t?hcyzcURUZyqyPc~/@c|*czGcTHURISAZ ) Sx.c?PcANSUZ,%c~)up>c.o+  7cLONG-BRA
NCH-OSSp>cSHORT-TWIG1$# EcpVcRAIDOs+REIDs'cKAUNAcCEN*!^tc@jc?4cGEBO GYFU@jc@xcWUNJOz~zGcHAGLAZ[ec
HAEGL[e	!A(HAGALL[e	!D&4'NAUDIZ NYD + ntF)2$DOTTED-NcISAZ^IISS]mc>dcJERAN^VcGER	!7(AR.wh)AR,%cI
WAZ EOHcPERTHO PEORTHq'cALGI: LHXcSOWILOt2cSIGEL v)SOLt2w(1$;Ic|]cTIWAZxMTYRwD*1#=6cBERKANAN B
EORC BJA0 :(M)5&	#]#PcOPEN-PcEHWAZ>s>dcMANNAZmPm=	#^(MADRm=n(2%LAUKAZ LAGU LOGR`/	!##LcINGWAZc^
0cDAGAZ DAEG=6cOTHALAN ETHELp>c>gcIORcCWEORTHcCALCcCE& STAN	!M(YR	!I&. ICELANDIC- ric| buXr`bnbr`
b<tr`bARLAUGw.bTVIMADURw.bBELGTHO+ !^tctqcpZc@[;`~)ue^Ie>se.oe~ 7aw;!	vQ yPc^uc@kcoFcw3c=7	w:!:)
	w40bz@#]mdyPb#z7c~*(b!/`s(a]%q_~*(a~*BuXr`b>Cr`a;;u]aw<cD`&]'_O	zr!_kc_PcoO	zr!<Nc<(cp;f y5c>
4cy7cNNO	zn!xVcx,col~ qecr/cqs!/3 soc`zcz:ctrcvG	zt#0crjb^*z@QAQdrkdrqd~*tdrvdQUKds&dQUUVd~+ZdRYYd
m:dLYYdrpd~*rdrtyOpXfyLdQAUbz@~&)/Xd.ic#.i!/b,dySdpEd|,d]yd>dd.w!VJ%NIKAHITcREAHMUKcYUUKALEAPINTUc
MUUSIKATOANcTRIISAPcBANTOCcROBATc: DAKHIATcKAKA4 AHSDAcSAMYOK SANNYAcVIRIAMcCOENGcBATHAMAST HANcB
ARIYOOSANcCAMNUCr#KUUHc`XxfcBEYYALcPHNAEK~(ccKOOMUUTb=(w.RIELb#AVAKRAHASANYAcATTHAC!57=w.`X/wSONene
er#e:Ye;@erHerKerLerIerJanF:ob?)b<R	VY!Pb@U>AbxWu~]kbuH&BOUNDARYm]bmQ<RcG!NIRUGUb@]z&t`pXeyLex3bz@t
h4$@U	!g<	U7+pEcyWc>ocnwc/E!|. rjc@kcm>c`0ct3ctr	)1 !&K 	)n zHc?ic	(| y'c|^c[gcZRAc`dc|qc;~cxWm#z
@#d	?e$yPdpEdyWd/Ed:)dq(drjd@kdm>dw3d=7!+w y'd|,dzHd^ud@md[gdJIAdNIAd>`cuHp#^SdyWs /EH!kd[fs tr
m#j ?ia#s!^ds)d;kd|mcmQ]mU s(d?i1 ;k$yL>Ac/3@r/PpXez8pXeDAMARUe~.Le^@& ~ sex3& ,%e]me^ueoFe;
Key1ey5e=Keojew3e=7eq(eqeev>e|me|^e/#cxW/3@rw3f|mcmQ, [.foFf;Kf^cfy1f=Pfw3f=gfv>f~#5f|mf|^cI!myPf|
,W$:g5!DAGALGA5$`da;Rw,q&c:$c~ +czWcPOYcPAYcPWOYcTAYc_9cKWAYc~(5cNOYcNAYcLAYcSOYc~+jc~,+cSH1 H
S Y7 /3c~+,c~)TcpN& ~)U*!Uc~)V*!Vc~)W*!WcRWEEcRWI$ % O$ Oc~+XcpNq'dw2d^td;I$D_ t2dtqc>jzGc
z_zGc@*%sjds2>?c~+$RWEcz^m&d`1cTHWEcx:cT) & OOcy6cTL/!L/ tLuFdu<d]Tc;_GWUd=[[%d@md~%EctLJUUc;_~&
Bc:R=[`/es'c;_=]t2a`jVOWEL-CARRIER!b!.p6~/.!.]D!6A'GYANcxo!>k ]mdyP!f-&	hG bvf!|,ds(dzHb%!^udoF
d/Pdw3!4> m>= `0b#MUKPHRENGcKEM*$SA-Icm&b?W#ET 	,J;aw>`H!^ud|!doFdy'dt3d|,!5] `0!5V m>d?idy|d[
fdrjd_Fdy+dnwd	#4 >od>sdyPdpZdp>dyWd>dd~ bd/%dx]$aoBw>m3!]Grjem,rje]G^uf|!foFem,+&]Gy'ft3f|,em,+&
]Gw3fwpfnwem,+&]Gq(fqefm>em,+&]G?ify|f`0em,+&]G[ff=7f:)em,+&]G~&vf~/(em,*%]Gvdem,vddz@#z@SHORTE
NERf.if^ fyPfywf>df.wfp>fp?fyWf:$f~ +f~.Yfq&f~)afUEYf^Sd!@*yzfoEfntfm=f^tf=6f:(dxZmZ d=w|ke	19#e@Ue
@6euaetme>veo_dwu=wpXd#~'!eLAEVa_Ow.P	4H%ne_lcr#_lc:Y_lc;@/ H% K% L% I% J_lc=E_lc~#?&!@&!=&!
>&!A_lcTUTEY|$spcr#spc:Yspc;@/ H% K% L% I% Jspc=Esp| &!@&!=&!>&!Aspa;:!	:r$~)/	:m%~(a
	;'%o|!ek$NYCA	*7%y|ct3c,%	;u'	s !.wbPALLAWAb?2pFtYaw>wu!]G^ue_Fe`,dm,^ue`,e_FdoFd]G;Ke;kdm,;Ket3
+ p3dRATAd]Gs7d=7dm,s7d~++d]Gw3ewpdm,(#nwd:)d]G	1O ?idm,q(e?ie	)k m,|,d]G	+Q RUEd`0dm3dzHd]Gtrev>e
t3e[fd`xd,%dm,[f!qO*pZd~'!d[Ot3c<[#mws(f`0e`0TANG`5c#mI_&`5< @*oFem,q(e]Gs7p+#m>e:)et3c#SAKOTcz@#
,%emItGe.iewE.ie]me^ eyWeyxeyPeywep>ep?:[eq&e>de.wepZe/%ewu/%ep?.n	!< dx[ d_Tx^!ds(HAAMdmIt<dKHUEN
-LUE KARANc<Q<y>?c]W	)(:cwuB=#WIANGd&!WAAKdSAWANdKEOWdHOYdDOKMAIdsQsz~++dmIYAMOKdKAAN%!KUUdSAT0 
( 3%Hv CAANGa<Q>F<:.pbDIAERESIS-RINGb^.b>J/gby >?bX-X:[bzi`l:[bp^mY:[b>C)$`g;hv`:[b~,o*$q?.nb>C
'!q?:[cp~b)%!zG:[ey@zGV Nq@.n`Nbsa) sa2!:[2$:[sabv8BRACKETS.nbp(#.n$'D!.nbr-0 >C(!e:[by .s.p
b)%!^9@jfs'fw2a:6#y`RICEMd;TcCECEKc~,|cBISAHb!~ :dwWc~&&'!.O' s(sGewWc`0`Y( EKARAcAI'!~)fD ^udm
Gc@kdGORA	5& dLACAc^XdJERAcp3cw3LATIKdnfmGc=7nfALPAPRANAemGcnwRAMBATcw3dTAWAc=7dMADU	5T dKAPALc:)dKE
MBANG	G;-SAGAdSAPAdc[fb#REREKANbz@#wWdy`e~+hdvoeILUTds(sGfwWd`0`Y( wDesGewWesGwWdqYewWb.u.ub!^ztFcK
HOTtFcTZIRtFc>ptFcz(tFc|atFcASYURAtFc/`~&@	A1<~**b~*&b~.zb;]PAMUNGKAHcSIKIcPARERENbPAMENENGbnjw.~#nd
DENGd~#zd=Ce~,|dDINGdDAE& EU,!2 =CGEDEd<QTEGEHeENDEPe~&$ Oe^a+ $'!O' B@ eGONGdscp^>Tf=9e<D~.
7fTAKd`Pp^PANGfPUNGe<DPLAKfPLUKep^r$b~**~'+b~*&~'+avu#PANYECEKcU LAYAR*!WISADb	K_%.wcp>c>dc?Rc^u
	Cg !vI$|^cp3	Kz(?icy|	Lg1|!c[fb<[#PAMINGKALdPANYAKRA)!IKUbz@#PANGHULU4!UK(!AELAENG+ OLO)!MEPE
T1 EULEUNGbx AAEHcz7b<[#~*/m>ezHb!_FcSYA	&E</|b!REUc~':c:gc@*^tdm=a:K!,%cuS,%c[fcuS[fcm% :)c_0
	Fk uSq(cnwcmSnwczHcuSzHc~*$zHc@kcuS@kc^X#E9 uSs(cm>cuSm>c~,Xw3c~)Dw3ct3cuSt3cm% |,cuS|,coFc`0cuS`
0cp3c;Kco.cmf	%P b#TOMPI![o ~*$>dd>od]md_0	GP _0p>dyPe@L| b<[#oEd[eb~*)bPANONGONANbw.:mnwMETEKdPIN
ARBORASdJUDULd~*)a`^!^ucKLA	@r!GLA!VW)	@o 	&a%r(cqec?icFLAc:)cBLA	8# R!VT#	&y%[fc~%ccy|	J;!zHc,%
	@e$!VG#!pW 	5s!db<[#^tdm=d`/dntdq'ds'dw2dNYIN-DOd_&b#RANcp'br`~->cp7THYOOM, ~!ic~.,~!id	LL=!Q)!
apP<#!Jp9c!`0d/ud/ d/Ed/,d`1dAAKdAAJdAAMdAAWd`ed^Id]~dINYd^Gdm0dyTdyUd~.Td~.Yd`Hd?;dEDDd?.d?Hd`zdOT
TdOBd~)xdpJcn]TTUDDAGcGAAHLAA~.6cMU-.(RELAAcPHAARKAAcAHADcr`~(dd>C~(da=5%!t$z(dLONG-LEGGED=Rdo&p>dz
f?JdwEwTdTHREE>$wTdwE]'#e|5dUNBLENDEDy]a['n['!/Be:>e@te>>e?.ez5e|jewIe^(e_$e`EemPeo%epVeq9e|nes.et@
ewLeydeqhe_Ie[0eroeu5e<&e;Qe^ge<3e;ne|#e^de[he].e]DezXe]&e]Pe@ e|Le~$:ey@@te/&e.ze]'#e~&~#avur`:mSUR
YAdPANG	,p URNAMAd~!Wd~':tHd^utHd=7tHd:)tHaz*xZKARSHANAcSHARAcPRENKHAb#NIHSHVASAc|2~(Jw$bxZ|2AGGRAVA
TED^*w$d%!_6' c;T:[c|2.#SCHROEDERc>Cw$cy w$c_6/Oc#>Y&x3'!RIGVEDIC~&Kj!ATHARVA4!1 b#z8w$dyVcs
Qz8yVcz8/OcsQ'!1 $w?d/O$w?c/P~ IdBAHIRGOMUKHAd~.]e; TIRYAKcHEXIFORMm#/Pc%!RTHANG+!/PUBHAYATO 
^!c~ Vcsz~ VbxZ;T.n# @ cATIKRAMAbxZsj.nc>Csj> >C/P~ Ia)!%',%e.wb%!y@.wb!%':E:($<t ?Pe>d;!p^>de]
m@ ^Ve^te`/$v`em=esQntep>ep^p>b%!uK,$e$no @pEV prb%!xh[mp>d;$' 6 q'esQs'ey@$>! Pd!yPe	=i#ZED
yPey@m=P $L^ ]e?gcz=LARYNGEAL SPIRANTc/&a[Q!%'@se`=eqvesSerYa=5!%'? anD!',%d.wd:(d:E:($v@ sQ>d
$vB3sQntdp>dpr	.P%yPdzGc%,%$Qz%.wdr#$dd%y@p^~#y@]md	/A ?4p!^p>d	$ (dq	!!#uKyPdy@m=dyzd/&d:dd[Q
@sd=Zd[Qqqd;~a)vi%!]mes'eyPeyza[Q2 :de@sesSeqqeF %!yWd:($n2xFd=6(#?h(#m=(#nt(#q'(#s(#f@2/D
1!t29#w($|](#y@@janD!=5?.a	@A!dwn$STRIKETHROUGHc'!]m$v`c!^C$v`dq'- '!yP5!yn5 :($q0]Ud=6(#?h
(#@j(#^t(#`/(#m=(#n8$q'(#s($t2i$K(#yz(#| ($](#,%$sM]Ud/:(#=6$]U/Dw?d>d2#p^*%sQ,'tP
(#]mF%p>*#?K(#yP0$g(!anD!%y@/:d;Ie$=&d?Pr$d?h$WQ#tS@jdy@[e$W.#d']mf+!V$<vd`/o!fq0]Ud'`/
$W' y@m=$m#`V$W1'd'ntd:Ep>dqqd$VJ#w2$q0$V+%'yP$V/%d|]e$V!%dx a<Q>B[N.pc.s.pbuv:[bw mYbMACRON-A
CUTEbGRAVE-3#:%4!b@ :%G#S#?*8(b)%!s':[bBREt.4!b>C<:.nbpI.nb|v:[b^I:[byq.nbyu.nc @:p^,%.n
e.we/Qe/ze;I;fe^9	.Y @jc!%'@jc%!^te`/. `/fm=c%!nt. ntfs'c%!s't!et2em#t2e|]e/:e:(e:detPe?he`/$>Cn2x
Fep>$	JE eq'e?KeyP0%zGe,%$=jC =j9 =jbyjw8.nb_8.nsad`Nb>?.n`Nbzf^@;2$Po `NbDELE#[~ >C^@;0:[$NL 
#Pe(/D>G/i:[a)$hA :[b%*&'!:($c! *%4%:[4%H%`l4 *%% Z f$hf ,''!=6u$*%4!u$*%4!u$*#
4%;fb%(#0#<:D *%%!G!$mJ ,&8%	!V ,'8!e%>de(xF4%xF4%;f/D;0b%,('!?h	#;#?h%!C%mAb%($'!
[eD$*%4!	#`!*%4#=jb%(#0!	#[ (!0$0T *%%#$!4 *#4$$pn#,('!^t$4 ( 0$	!J!*%4!	%-!
*&'!`/H$*#4)$hd .(<!e%`/e'	$y!*&'!m=	!V (!0!	$8!*%4%:[4%X!ntH$*%4!H%ntH&	#7#*#
4$	!N!*%$kJ!	$@ ,'8'=jb%,'8!	'd$,'8%i&	'd%q'$4 ( 0$	#+!*&'!s4&s4(	#?!*%4!	%-&.)
<!	#[!*&'!t2y$*%4%:[4%H%.s/DL#.%P';^<%.%m+>%0,'!w	!F#* 4%	!F#*%4!	#'!*#4$	%b!
*%$BU!4 *#4$	)M!*#4$]%yP]'	&B$,'8#mA	&B ,'8 z$xFb%(#0!	##!*&'!zG$[Nb%(#0!	&F (!
0#y (#0!	#~!*%4!y$*&'!| H$*%4!m!(#0 *D&*D&]$<:b%(#0!s#%*%4!	% !*%d[e(#w2$=jdz
G$sj.nd|*(#,%$!Kg m#	'E!g=kv`g]Gv`b'!u!t2b%!=Zb'!,%	!6!*%4#]U.nb%*%4#<:	%A ,'8%	*J ,'8'i 
:'m+xFb%,'8'	!V .)<#;0	!F ,'8%	!F ,'8%	!F#.)<%	!F ,'8%	!F#.)%4j!	2|#4&	$8!*%	3G#
	3E#0!	$H$,'8!	$H$,'8'y#.)<'xF:'	!*!	$H&.'	2s#m#*%4#L#*#	/~!4%p>4']$*%4!	#;$,'
8!	#;$,'8'i :'m&	#;$,'8!	#;$:'	!Z&Z	!F ,'8%	!F ,'8%	!F#.)<%	!F ,'8%	!F#.'	-r!	-1$P
$4&	$8!*%4!	!o$,'8!	!o$,'8'i :'m&	!o$,'8'	!V$	!o'|*	.k (!0!	-5$*$D&	##!*%4!	(e (#'
!n3`wb%'!.!yzb%'!L#m'b%(#a[Q%!/:$rZf=HfrZ/Dz$f=H' .!q%.!q%.#_.#_b'UQ%!??U?b'GBo N	##M
UQ%!^CUN'UQ%!pU	$2?GC%!yn	##MU =HgI hq%h	!] TiOUQ%!/:$z$fq%d??)%N)$^C)$pU)$yn2%T)$/:$
s |Ss!|S	!B!2$+%	!J!6&q%6'_6$+%b'!v$rV7!rVv$2$+%v$6$+%v$6$+%	(b 	!qn?N	!qopT	!qop
T	!ql	'<!AfmAf	!Y!|Sf	!M!q_g	&' D)fq%frVb_sbrVbrZbq_b=m	.,#N$f8	(A'i&	#- dq%d	,m!	!/!=m	*:!fq_f=m
	,V$	!N'b=H^*yn^-dsS	*= dyn$j)ynj'G#=Hb=mp$bz$	%y 	#96pU	*5$	#9%q%b=Ha?.rwa?+% .v,a?+v,a	h$ P
ER-EMv,aFOUR.'SIX-'@&v,ar`v,ax%v,a[jv,a|kzhv,cNON-JOINERc^la`TmYasgmYa]kaN	TO AKING]ka@&=Fa?.% +=
Fa]Y:Ba>Cz.`lbm,`la`NuXs%a a)$uX~'L* b~%Z2!`N>CD$)$>CD-=;a>C=;a;>axz;>apX>?`IayL'!]Y?)a~%ur2
a`lthaq:tha`T~$<asg& r=~#eFORMATTING< )zasg& o&omv,aqZ~(P#bwax0#arQa>CrQay rQasQrQb/ b/!;ZauX`Q
/Gs%mYbsd)#aREFERENCEmYa>C?WmYa^=aq a~.Qa;ox?a;Z^6r2a$Ih Ma]k;>a@Xun%]H $s!asa*%>Cs mYas l!?W
.!~-c#?MasQ~*N#a:q`U;>bsh;>am,/sasQtea<CyjayL	!-!KS ALIGNEDz/a<Sn=#aSWUNG=Fa^@~.Qa@Cr`mYax3>?r`aryr
Qa@U,!@6'!yL. 5!mYa>B<ta~. az.@U>Aamymbv,azu^la~$mAPPL$7y a^AxJbthbr-a`T^Kasg^Ka@0~,o^K	%G ^Ka~
&*~-<~- a~ /*%&**@O~,4!*%(u=w~+~aNOMINAL-#vw|kb)%!]m%bD,br-#bn=b?A#b`Nq@bsaq@M ntavi%c$%[Da)
vi%*s!p>e| etPe[e	ja em=enteq'et2ew2aEURO-CURRENCY#a<P#aCRUZEIRO#a~$jFRANC#a~'D#aMILL#aNAIRA#aPESET
A#at0#azq#aoBSHEQEL#a~#n[ N#a~&`#aTUGRIK#a>K#aGERMAN PENNY#a~*>#aGUARANI#aAUSTRAL#aHRYVNIA#aCEDI#aL
IVRE TOURNOIS#aSPESMILO#aTENGE#aINDIANt0#aTURKISH~'D#aNORDICmY#aMANAT#aRUBLE#aLARI#aBITCOIN#a~,U#a<Q
`N]).nbsa'!m#z.`lp~bu>)$/M/g.nb<B'!`N/gN!'#jp~b<BsjH!'!$`q @U'!?0<6cv8c=nc<6:0b`NZ$?0tRc~&
Tc~.Vr5xxbsPv!p~b>Cz.v`p~bANNUITYw.by UNDERDOTbzf;2.nb`U/gp~bm#>CU!sh])$:C>Jb`U*&N/g:[bsa'!/s.na~
 -pFaADDRESSEDxVwwSUBJECTa>E';Ia=VCELSIUSa;i`lw.aCAREpFaCADA UNAaEULER<]aSCRUPLEa=VFAHRENHEITatS%@jb
'[ea:s& >E& ~*W<]cpwyLqvatS']m? ]m, `/b%`/a`/:(:Bw.R ntaNUMERO#av'RECORDING~#&P q'C q'cri/ s
'l s5 & PRESCRIPTION TAKEa~+:aSERVICEmYaw^#aTRADEmY#aVERSICLE] |]a~)w#apK#a^@& :s5 y@[Q%!^CaKE
LVIN#aANGSTROM#atS':(G ;IaESTIMATEDw.atS%>db'>dc?hay@'?hK m=b%p>a/1w.a:cw.a[8w.a=>w.a^/v(asz'riaFA
CSIMILE#a>E%qvc@sb'@scqvbnuvsay@tB'@jd`/asQtB'`/3#|*a>E^P'=6c%=6d>d	sA aPROPERTY`lay@/AaqZ#aAKTIESE
LSKABay@%?haw.@Lt=v(%jX SEVENTHdNI& wedx&cyLx'cpX@#cyL@$cx3@$c@U@$cpXuec@6~,DcpX>xcx3>yc@6>yctm>ya
@Xp*pXasvp)#`:5wac?'cyHc@%cpX]fc@6]fcpXx0a%[ #`X5wad?'dyHd@%d[ d[ d[!Z#x0;I=6c@6x0cwax0csQH 
a)%!sQ;IF!uaLATE@Oc@%EARLY@Odx0cG x0azD@X|kx'ay@=wyLcx3a`U/gayp/gash/ga>J/ga	+l ayj>G/gaorz]/gb>i/
gav)' b1 Z!$v`ash(#`UzRh!zR>!yL]0g p)$sh)$>J) c%w?c#w?0!@`:Bayp)$sh)$>J;#	![!$:H_#]
U_#]U0#m'ash(#`NsazR/gc	!f >J|v	#V!$xL`Uesha>J-'X#<h>J7#<h`Ua/Mxhtc/ga<B) 	#z$xVm#:Ba`U+ :Bp
wsh*#a/Mp^<6R!)$	.H!ype>Jayp-!she`Uash:(>J:*/gpw	%Q$`UpF>J	$B!	!3 bq//kayp'!sh'!>J'!`U])E 
])ash+ 1 a`U>C	%_!Nsa,%sh6$@$ayp' 8$a>J' R$	&n!>C	#s!) b>i>C	&t!0!z]R#Uy h!y .!v<.!v<
	%8#>Cv`a>J*%`U=G;!=GI!'!>J' 	$w$a	$v$`UzcN!zcN!zcN!5&	'+ dpVqQf$]Y:Bgz.:Bc>C/ge5 S$@`zL
	&+$<h	)' +#yj>Gp!sa/g$%<6a>J	%= yp/gax3sh/k	's z.	)N#z.	$o!,$@#>CB'>CD&.(Up_/gashp_	% !)!@L
/5aCOMPLEMENTaqE=ta~-VEXISTSb>9ot+!a?-tkaINCRH#nza?%pFaot/B)!%&!<b/mn$aW <`+!%3$?2pFPROOFanur
Tb~#%bvsan=#aMINUS-OR-PLUS#a>?r-a>-unatkn=a/spaasjpaa;>paav8sxa<~sxa@WsxaPROPORTIONALxVa^.asa/G# mr
/Gav1/GaDIVIDESa>9ot>*aq>xVaot'!m /Dbpea^>ayha^:a>C^:ay ^:a<c^:av|^:aVOLUME3 B^:b8!/M'!THEREFORE
aBECAUSEaRATIOa~*ia>?n=aEXCESSaGEOMETRIC9 ~%iaxFpaasQxFa^@`Gt2aSINEzRaWREATHrTaotxFan=xFa~ _?@xVaot
*%/W' b;D3 0=#:/Wop.%/8R$/80&pe+!y xFa/5,!?DxVa~%'(!DIF	E>!:faAPPROACHESwwLIMITG 	!B&peww
^#pFa% pe5#a<P?Aa?A<Pasj^(3 b8!CORRESPONDSxV	7J$SaEQUI$mo xVavK?Aa=ZR!% ;FDEFINITIONamr;FaQUE
S. ED	#J!'!]t,!'!STRICTLY?DxVa`_	#`![P) 2#w2%w2$;Dot4$+&n^`_b[Pa:faotm b0#o:`_opC b[Pop
u%e?Du!)#F%DF$	!R$[PD!`_B$[P@!`_arMavmarM	!n!vm)#2#D2!)$>9ot~*bc~,savjpFavxpFaot,%. c
. 8!k%x+&o:D#	#! cvx+%P!$otQ$,'ndbncbyhav8^#pFbphpFb^#s%bph+&;Wb=$a<7r-bn=bxJb>-unb>?pabs
jpab/spab?Ab=Fav9E%@!asaw8a`Nw8a>Gw8ayjw8aASSERTIONaMODELSay%aFORCESay z.:BsayAa>C+ >C-#9otPROVE
aoty%/!R!a~(~I*rMyesEavm'!oqve	.8!+ 0!	$C#6&/$ph	):!anaaHERMITIAN CONJUGATE MATRIXaINTERCALA
TEaXORaNANDaopasa/G$/_bxxanum /Dcpeb^>byha=npaa>?paavK* -xJa;'a`Noq?mtfrTasa+&`N2$'#QxF?Aa='m pe
c/Da>Cvjbvx|$~*Ua?@/Dq>xVa`_$>?a[P& z0n^`_c[Pa`_?@xV	(D!+#`_a)%d[PdrMdvm	'~#pe?@c~,s( aotv8	&n%
c	&n%a8%ot	',&ot	*e&	*$!+&rM+&vm+&ot	%Y 	2j!	%^#t	%`'<*3 az.?)a~(J]Y?)ayjsa=k?)a>G)$?%pF$m#]Y
v`dz.:B/u?2pF/ a%<!5+P#>?.ndpxB$px6#yfdyL]Yvaa<bt$ct-<br,L k '#|]ou:2MEMBERSHIPaDIAMETER
#a?$/ga]`ayj/ia>G/iaPROJECTIVEaPERSP,$zU`la`N;gasa;ga`N@>asa@>a;$sa<sb`N<saxh,'sQot#av8m/a/_at]aSE
CTORaw^	I+ ERar>^-aVIEWDATAv8ar)pFINTEREST#ay@b ~.oa]_axh`N<hbsa<ha;$,'xh[m^:a;$'!@cautayj/i:fyL]
Y:GaOPTION_Da~$ExVwwsaa| ^(,%s<;(a_Ea`Q/G;)asd' F%`Na~!&sjaCYLINDRICITYa/5AROUND-PROFILEaSYMMETRYa
~-pRUNOUTaDIMENSION ORIGINaCONICAL TAPERaSLOPEaCOUNTERBOR,&SINKa/R@iw.I-BEAMdSQUISHrwdrw?@e>*e=ne^p
e<6d<6vSe^pdun:Bd:0:Bdrwune:0e`_e[Pd`Uz!dshz!drw`U/gesh/gd<6:0d>Gw8yfd=ZvSdrw>G;Ze=Z6!^pdypS!yp/gd
yjw8pxd=XI!yjI XdyjI!>JI!>J/gd~*|r!% nyfd^pyfd<6yfdyju:^pA rwd<6vKdrw<Pe!=jd=X=jdvK=jd^p=jd<
6=jd>Gu:vSd`N'!xF=jd[P= R:Bd=XxFdZILDEdvSxFdteyfdrwot?@es d>G;ZxFdyj'!^CdsSdpTd/:yfd??yfd^CyfdpTy
fd/:aot;umY	/Z 	FM!SHOULDEREDp^;(a:Zw.az.`l$n2>?a^6w.aCONTINUOUS~.Pw.aDIS3-~$>w.a<V^ cv8$;ie a~$B
w.a/>_Dw.aHELME 7]Y:B$~)Ebxx>Ga;3<6$NORTHWEST/gaUNDOw.aMONOSTABLE] YSTERESISw.a~)pH-TYPEw.bL)$aPA
SSIVE-PULL-DOWN-OUTPUT;-UP9'>$=)w.@OyLaSOFTWARE-FUNCTIONw.	(<!rwa=Sth_Dk REVIOUSq,aNEXTq,a~*etRw.
aCLEAR*!`Nq@ym]Uc?Zcm.]Uasa1+	b !ym<hd?Zdm.<hasa3-&@V Y dn2qxd[!3 ?Zasa<0^:?Za]Y`l?Zaym`Npem
.I#tYbsa/ `N/#avsxhb;$axhv8;)a;$' dpw0$s-w.;$a`Nz.;(`lasa)$]YtMLINE-1c'!3'#7'#9a=^w.`gz./Dx
hsaf;$sae$<6d>G/D]Y* yj*%z.$xx:$* yj*%a zR;%zR;%4&1$d	!/ `Nf;$`Nav8@KasNw.aEJECT	(n!?Zan*;
0bm#pwu>bu>pwm#.!yLu@b% 2 d^kb~.#b~-Pb~*6a>h~%=aFUSEaxhq@a;$q@axh=';)a;$'!xhxku+0!)$zcTRAPEZIU
M	/r $<6aSTRAIGHTNESSaFLA)#.o=)aELECTRICAL^>a=SEXPONENTw.a:qsd>Cxxb`Q'!yk'!>H'!<#$z.:Bb`Q,'sdx
x$	;~ aALARM<AaSTOPWATCHaTIMER<Aa]_$FLOWING SANDa:qmy`Qxxc` cykxxc>Hxxaj$:qv8@LvVb<6@L~+1arFw.bON-
OF) pVw.bSLEEPw.aOBSERVER?_w.aw.@L~)PcvLpFHEADINGewmc?2pFwme~-vcENQUIRYc~ .c:ZcBACKSPACEc]Y~-?c`l?w
cz.+ @O?wcCARRIAGEsNc~,&psd^(cDATA~'B~$Ic=e<d!qG%co9y SYNCHRONOUS IDLEc?2pF~-v:vc~!Z.!myc~,rce 
@'thc~%>& +1thcyithcv,c~#Va~!3w.ap^;(aw.@LoD6 @OyL` ( apC]Ub~!lb@Nb^@@Nb:]BUCKLEb;%x?b;-:@~%zbAM
OUNTpF;ub=FbCUSTOMER~ -p(b>C:0a<7#g49	[-$x(c@Vc@!cubctnc>wco`cyIaqAc^a @gvVbyL'!x3'!@U'#6'!ua
'!tm'!>v'!o_' ap(w>#?'i#Hi#(b#V'#!i#bi#ni#wi#`X#Ip!qA)%!,%e!Xv#>de?he@je[ee]me^V	l0(
p>eq'eries	l9!eyPe!Ws  e|*e|]a<7)'tlc%qlb=w|kao9<7p(	`x x(d@Vd@!dubdtnd>wdo`dyIa>C<7=w	a_5cp(wa
k!t!;(>N`g]Yc]5]Yc`gz.c]5z.c`gy =F8!)#2$z.2$D!ryD$)#2!D$ryD$>G/Dsac>G`g) ]5d]5) `gc]5
=#F$`NF$`NF$`NF!=$`gyjO!yjm1=#F!O!yjm1yjm$z.O!z.m%cyjo#>G`gc>G-#g cz.	!.#	#3$M 
	!O$M c]5t#	!!!`N	!!!`N	!!$`N	!!&`N	!!!	!e#	#j$	!!&`N	!!$	##!	4[ c`N	!t&sa	!$#g&]Y	#d!]YA!n(`N
	# (r%gyj|*yj|(-!yj|7yj|(yj|!r%gz.|*z.|(-!z.|#	$:$>G]Y	$:$yj]YE!	!<$`Nyj	#l(	$q(' 	#/(
	%&(C u#	$w$>G- 	#7$z.	#7&z.	%5!	#7!>C	)=!) 2$	)=!)$>C]Yd( GuXc >Cd>C) uXc>C	)Y =$`N=$`N
=$	(`!Z1	)G$Z1yj	's!Z1	)5$Z1	'Y 	!W!]Y=$]Y=!	&x!yj=1	&:!z.=1	$A$/_	#_ g`Ne	!m gsad=kymsaxVm
.`Nf`N) sae<td`Ndyjdsad>Gc]5.)`g`N/D]5sa	=& 5B$/D`g4$`g>Gaym[m:vam.pX>x:vcrz:vbx3>y:vb: b@6>y
3!r|:vbtm. a@g:va`Ntm<&J'[mc'pXq c| asa[mV gtvamytva~#DtvaympX@$)$rxm.`Ncsabym`Nd/D/ & s
afsaeymsa4#isacsaA$gB#a:qv8azcv8c$t$<ic<a:q%v8av8$]Y@(cz.@(cORTHOGONAL~#+@(cym	$g#@(d	$|#@(c=k@!
d$zc& :qs<azcsz z.,!z..!~*,azc& :qykxxazc' .!%/$%0!sd/!sd.$%/$>%r4azc'!:q>H=!' .!%
/$L#`Q/!`Q.$%/$>%r4/!k!=nazc=n	$# =naFISHEYEam/azc<6a>B<6a<6$z.@(aBULLS> :q6#`N[m:qcsa'!m
.'!ym' dsarx:qc/5;Dym`N- aP ]!sa)$^?;>bzc<6aW ^?+!m.+&[#<9/_bsa)#am.+%b=%_!Z!'!:qD 
xxc`Nxxbym' c1 azc;>av8	#%*B =k+!Y +#	L[ z.BISECTING`lbykxx$>?a( e$de#a`C<6S#	!| dm.' esa
rxdym' b<6=7a	!n bsaxxam., azcmyv8a:q' .!%/!(#m.L!:qvt$s8a<HaybauzaCOMET7 KazcvKa`haTHUNDER
STORMavta~ [~)Ca=a& CONJ	M,!apca:qw^azcw^a::;(c$;ud| at;ayb$s1DROPSa]]~!(azcu;qxa:q'!SHAMROCKasQsz
@@]2;>a:q`Nr5^+bsa' azc0$yj7(b>G>!ul/D~#*aCAUTION#aRADIOACTIVE#aBIOHAZARD#a~!VaANKHaORTHODOX<ta;
~sSa<tpFLORRAINEcJERUSALEMavK/D<pa?pw.aADI SHAKTIa[p/DSICKLEaqNw.a|I|4ax~@L]4c~'&c@/cx9czjczPcnQc>ha
zapFDHARMAazc@d?kbuu?ka:q'!zc	%? @0rznOa`F'!n'a?y#a>hamN#aJUPITERaSATURNa~.Wa~)!ar.aARIESaTAURUSaG
EMINIaCANCERaLEOaVIRGOaLIBRAaSCORPIUSaSAGITTAR, CAPRICORNaAQU3#PISCESazc;z_Zcr~cswc:pc_hcqLa:q60b
~,Yvnazc]2vnb=nvna:q<I3!;#:q;'zc;!]]SPRINGSarzowa>xowa:Q>xoybucoyani@9#bo-#bu!#az]w1<ta>i'!~.Rs
=w.a% @LTYPE-1r+&dGENERIC MATERIALSa:qM%RECYCLEDq8w.aPARTIALLY-7+ERMANENTq8#azbw.a=rFACE-1%azc<
6$>?sadyL>Aa:q<6$zc1$zc>AanI@L|4c|Ia=y@L~%;|4c~'9|Id|4c/ Iazc@8a:q@8a[p/D~*Fa~ Fa<uSWORDSavJpFAESC
ULA	%b CALESa~ =a@Ca[$A!HERMESaATOMw.aFLEUR-DE-LISapuzcvKax3`n~##sad`NaWARNING#a]GVOLTAGE#a>F?y#bmN
#	jf LOCKED?y/D3 mN/D? $v`#d/D/$az.mN3 a]Y)$myzc<6b:q<6b%+ aM	NI!w.aDIVORC* UN7!ED~*.w.aCOFF
INaFUNERAL URNaNEUTERaCERESaPALLASaJUNOaVESTAaCHIRONa:qnOLILITHaSEXTILEaSEMI,%QUINCUNXaSESQUIQUADRA
TEaSOCCER:7aBASEBALLav9_Dazc>MmPc_Za:q*%uzzmuxavt:X<Has1a:quzax9<H/Ds1ay@	.@ b	.@!zc=n^(v8a<w~'*aDI
SABLED;XaOPHIUCHUSa~*Fa;XSLIDINGa]:$zc<ta<7S#CHAINSaol?7a/<ONE-WAY`NzWxpa:q~.C,$zc,':q`N~')~(Aazc
+&~#w~,K#a]5	73!`N<D?7av9t;a?n=k^(zc<6^(:qv8a:qy$a~+;`NENTRY-1 aASTRONOMICALw.@L~.Wa]5<6$v`%gY!aq
XaRIGHT-HANDED~&-qXaLEF1+^@qXa:q<tpVu1aSHINTO SHRINEa~!sa;aaHISTORIC SITEa[$zmHUBb$g LESamUw.@LLIG
HTHOUSEanQaybpV~%=a~$ha@8^(~%faFERRYaSAILBOATav8@U<iaSKIERa]q~,Gaqc$:7awda^Z:@w.a~%QGRAVEYARDw.aFUEL
 PUMPa=$pV	=!!@8$]Yn2:qSTRIPEa:qt7tQaym~!2tQ/ Qam.-#zctQb]5;umYaw^`|#a~-C~#wa/(a?8as2@3b[ra~.`& /
#[ram.saqV# ym*!zc~)5a:q& j!q$nc| a]5'!::,!'!pu[Q<ta]5'!p^;i.!)$)<tatxzc)< u& MALTESE<t
avKpFDAVIDa@UwU/sb:9/sa]5@U)!@UCLUB-SPOKED/sa:q@Ur3vKazc)$SPARKLESav]	-I!<7'!p^;i:qvKa:q;i2#u0!
]5)$r%vKatxzc5!/sS!/sa>vv5/sbr3F cF!ua.#a>vr3~+3j$.)yHC$ubr3/sawUs$)!]5'!ua~*?:q/Dzc@Aa:
q@Aa*!>v~*?pu1!<7V ~ vKX!r%Z yaxBTRIFOLIATEuya]5~!puya~,Za]5& :9/sa>vwU~*h/sa]5,'<tmYatxzc<6
ao9v90!m.sa~#xzcv8aym,&8!t7%+&:qs mYpkazc)#b?W0!:q=nn=z	&w 4 w.a`gz.:Bamy'!]5' buXy@<Rs%
V c)%b>C61m,uX6&>C+%a=,vOq:#pk	!2 K ]2)$:q]2asz]5) ;>a@@]2a	<O$my`Nq@pkbsa'!@:0#c0$	s^ 
@ d)#a]5!Nw!6!+#J2`g`Nxku+6#a+%amy`N='6$)#a>!	Wi #^O5p(wab<7tBF?o9H%fyLfx3f@Uf@6fuaftmf
>vfo_eH a]5zgsh/g!K~ #b>-#b!<5 8!or, aDRAFTINGr26 a]5	v5 TIPPED3!xy:$)$=G2&+&:qK#4xish/i
bBOTTOM-LIGHTh!iC#ia]5:q=,>J/DR dyp)#a~,b:qx$CONCAVE-POINTED8$sezc)!`R)$:-tx+$@b+&]5m.sf
-#bym+%aov8'a='m'aov?(<7]5+$WHITE-FEATHER	#r!:r	$M.]57%Y!c7$TEARDROP-BARBa$]56&SHANK7$~.u
?$*%OPEN-OUTLIND$>C='m'ax3	zC$AL/Gazcxx<a%' aqaap^vjbvxa`N~+[:2=Yasa*%pe$>?^7asPv!~*cvjavx( !a
z.:B$]Yv`ambsl=kam#>-amb?n=kav9!)D azc=n$;j>?a/D$>?a?%pFp`ypam.sa<h3 ym`N*#`Npt^jasa'!@g'!`Cyjw
8b>Gw8a`N	US yAdw8bnaam#saw8b`N!-3 $<6.nam/>+;F]YRULEazc<Y=nd$`Ux>eshx>bv8-!d- amb`Nzcv8;)bsa)$`
N/G0!/G.!>C0$)#R!xku+T!+&`N@:q@bsa' aypry/ga>J'!/M~$x!B2 *!!=<!<7r-am#`U	&~!!Pv b`U>C
3!>C5$)!!E,!bsh)#I!4&+%cv</ga;,qI~!3cDOTS-1 )$2(#8%($20%)%40$4@$0%)%34b%B%2&
*&51$5B$0%)%35e%B%2&*&42%4D%2&*&34j&F&4'+'62$6D$0%)%36h%B%2&*&42%4D%2&
*&34j&F&4'+'53%5F%2&*&35m&F&4'+'44&4H&4'+'34r'J'6(,(73$7F$0%)%37k%B%2&
*&42%4D%2&*&34j&F&4'+'53%5F%2&*&35m&F&4'+'44&4H&4'+'34r'J'6(,(64%6H%2&
*&36p&F&4'+'44&4H&4'+'34r'J'6(,(55&5J&4'+'35u'J'6(,(46'4L'6(,(34z(N(8)
-)84$8H$0%)%38n%B%2&*&42%4D%2&*&34j&F&4'+'53%5F%2&*&35m&F&4'+'44&4H&4'
+'34r'J'6(,(64%6H%2&*&36p&F&4'+'44&4H&4'+'34r'J'6(,(55&5J&4'+'35u'J'6(
,(46'4L'6(,(34z(N(8)-)75%7J%2&*&37s&F&4'+'44&4H&4'+'34r'J'6(,(55&5J&4'
+'35u'J'6(,(46'4L'6(,(34z(N(8)-)66&6L&4'+'36x'J'6(,(46'4L'6(,(34z(N(8)
-)57'5N'6(,(37(3N(8)-)48(4P(8)-)39)3R):*.$ashyN!Yv e!YV#>C!ZC$>C!ZE&:)yN	=t a
	>.%P!!cF%	Ba yp*$by /ga>J' V!=F/gash)$`Uy 2$)#byN)$/g$>BvOl!xV	!$ )!!dv!$z.v`f	#- byN
4!f5!g	#B$/hN h	!w h	!s h!__!q=nash+&	@_#:&/*orz]/D	GP!>i+ z]!g@ $]Ub>i(!av)*$:%Z#g/Dor
]%gj%N$n*/DQ#asl=k<w?n=ka?n+ 1 R$<wo#aor/#q#I!<#b&v)I*or	!0!f(zR/gr5~#fsaa* shwz=-y
pf>Jc>J, `Ufsh	]O!SIDE/_<B/gaLEF0%/M/gaxh)$;$2&K#$n=c1 $r-	Sx d6 b`NtdH!/M<D	E[!)$sh/g.nu>`
U/ga`U-#5 au><#`UG!v!:[a`U*$4!x5| a	F- x5%<6ayp	(c , `N:Cyjsa:C>G])c>Gsa1 ])ayj:Csa>G:C`N])
c`N>G1 ])T$I,>*>Gs#>$`Nh%!j'#j	(e!.(!j6#a	).!.(X%>GX)>GX)`NX$.(	!6%	+5!.&	!6'	+F!
.&	!6'X$.&	!6'X$.&	!6'.nd&Q':b	!:$ashJ&	!%$n':b	!V$u)U&e>GX(n)`UC'	!K&g)m#=Fe>G:[) a
sh94yp	!S.>J	#7.	/C!t$]/a?A#.n	UV Fpa+ 	(Z$1 ash+%d/8!VP .n	)%$x5`_a[PX$vjb(x5vjavxM%N@1w?as
a'!yj'!>G. !]E =Ya|]ouSPOTcyO<Pa`Nzc=';)asa)#2!q@0!q@N!`N^#;)csa'!`N~!./!(!#-M!yfasa*$
4%x>^(xh<hasa0&;$<ha`N0+saP+	Q[ $>?asa*$4 _`_;)3 _[P;)a>C`N+#bsa=$`N:qxku+H!+&>B?zaz.|v`l
amr/Gp``N~!z%$v8amr, $>?& t2^7a.s/Gav1J#dyjay@/GasQ/GC yfasQ(#p@D yjd>G|!$p^/d?3^(/gr!7# l`
Nj>G*%sa/Dyjj`N' .!>G.!>GasQ?-tka% $pxd%<6.ndsa/g.nd`N' a<6$]Y:Ba<7z.:Bbq>bsPv!bqaa<6	Ud :B/Dx
h[m. D!$SUPERIMPOSED| a<7ANTICLOCKWISE-ROTATED>-#ayj/gx5<6a<7zc;>b;>!gy <6$%<6xVwwsacyL]Yva-#av9
sl=kunb?n'!/sb%<6bv8ayL^kv:axx$>?.ncyfat2^(xx2 tj/u;$asaxx.n`Nxxa% :bz.:Ba% :b< a;'!'+(a:q;'ax
J6,zc]_a:q]_a`Nzi?zasa'!`N>C0$)$IN%U,!^.ax?pw^.a^.~(~$z.:BaDOUBLE-ENDEDnaav8$CONTOURED 	]L!d R
EASES/maSHUFFLErTa?A#/Dumq>f$xF.na]txV1#aGLEICH STARKaTHERMODYNAMICa>H!(o+:q=n$>G/gb!,> -!a:q*%
?Izcv8b:qv8bzc=nbR b	x($aRULE-DELAYEDasPv!paav!$px-!	;g :kv!b/ a>Cr-ay r-a`Q=,!]y )$xKaMINYanu<
7>?pacr-pacxJpabyhpa$>?er-bv8^>pac2 ayLm /DpacpepaanuL aMODULOyLvravs$^:ary^:paaFINITEqC^:a^:$>Cv`
bAVERAGE$unaCIRCULATION~$ma/M^;a`l^;$~+2qH/fr7dtd)#cotINCLUDINGwwr7a^:/f,%r2paaQUATERNION^:paa^:$
#$n cxJ#c^>cyhcpxcyfa^ja`C`Nxxpaa|]outN<VdPIPINGd!ca!ONar-#$	+- <:.p.ndxF&q7 dxF:[dviyLd:qxxan=#$
<R=%?n>Adsl>Ac ^(`N[m<6dsa' aVECTORpe<trTanc#$>?.ndyfatfrT$;$<Da~,N<!].<7Q <:.p>#>C5!>-#	!0 
	!P (#c(#~&,rT	<: HAND/#|]ouRE	%' AL<VaAMALGAM1!pe~#%a^>$>?ayh$n=#cpx0 pxcm /D5 m peb.n^>a^>.n
yhayh.n:B2&:B6$:b/D^k$yha^>,$^>a<Dyh$tjb^>$tja>Cv8^>cyh8%/D	#n m /D$>?.nbpe(!a>C	f,#yL~&/- dpe
a~,J`Cpec/Dam pep|9 b/D$n2vObpe(!0 ]Y=Fbpe(!0 >Cpxdyfd>Cyfa%z+$yfc!9!eyfa|]ouDOMAIN~ Lcs4~ La
?A#$>?:[a]t	!] y ]Y:B$	Cz ey ' axFpa?!	&e uUn=uUaCONGRUENTZ#?A$/sa	7Y 	&2 /W!|#!	8@ r	&6 .n?A#
2 	8<!>C<P?@ayL~#!?A~,8ax3+%G &Re /D( :[a?D&h5 a`_$<6^7a[P(!0 s mY.na[P*%`_peum!yk +%6($
>?c!0*@+q!0*@-saB-`ND!/Va[P'!`_/DuY!zt#-&:#otJ!)!	;+ >D?@.n[Pa[P-%`_:!uUpe?@a[P+%
6$N&uUL&^#N$x#P%m?@@#umo!3%=%aum!t-!e[Pe`_$>?^7e[P(!a>D>(bL'f[PauU* c[Pbp#?A#c[P(!
a>Co><!c`_$yfa[Pp|`_b:b`_a`_<D;F=+a[P)#2&	!m$/*~,Mwva~',wv,#	'n 2#	'z%$BUMPY.narM.nuY?A#avm*$
4!	%@$vm-':!L%J%H(F(/86$+%L$8&-(>CrMbvmavj$>?avx&!j$r-#:[avx)%j$nc2#)##!r 	(&%vx0*
@!	!w!x*$4!	*S!vx+%6!	!|%x-':!	#O%x-)8`Np^;(pabsa)#a<Dvjbvxbvj	!N bvxpei$.nvxavx.nvj.#j
.#xb:bvjc/D^k;F=F$vj	s~!>Ja~*U$wXxhaTRANSVERSAL^>aFORKINGaNON+%u>`N	t !byjw8aqa$t2az.:By ##]%`NyA
6!>C`N6!-(m#=F@``Nn$pF9 au>r $pxu!$yfd.n4#a>C	!2$bv`ot#asQ>C*!#/R $sQNEGATIONunaz.`l$<6.ne:
[aw!<6:[aq>$]Yv`cxFpa	E0!~!,sEd7!b<Ppab	)h!a>Dum#+*!c[P#-r#v!S!a`Cb#paa>Cv!paazc0 anu)$or>iz
c/gbz]zc	RO 0*`Nsa)#U:q/gayp'!>J:q	Qo!:qN!:q_!0(_$W#j>G:q	P##xL>Jeypa`U-(v8$xh[m:qc;$'!yms
a!F6#`N+#a=n	@=)cU*a>Bv8a:q`Cv8azc`C.!z0%/!(#:qqWazcqWb]@a:q]@a]Y' W!<6bmy=nazc'!:qmym/azc
'!:q%=nc0!%/!]Y?(azc'!:qz..!'!`N#8v x3`U/ka`N	xk'v<	Y= 	Zo*d@`:Bc	YA)d	Y*>b	SR 	Uv%`Na?A#	T*#
P	Lt 	TQ&sP	+a 	T2![Pdvxa`UryO hryV(sh4!V*q.8#dsP	Mr&-$>Jxy|v/gau>umor/gb:/v)/gazcmyvKa:q%vKa
zc%,!sdqWazc'!]5`C<6bpv$pv^7b<6$<6^7cb<7t;am#$]V]/ar ,!w?8&Yw?8!,&a/gr5>Jwzor>iau>1,`Uxy/ga
ypx	#p '!>Jxy	(k!xy	(k!xy#@e ) b>ixy	)A!0!7#o!=Gq!)$sh)$>J)$<Bxy#Cx /M+%	!N!	V3!+%_!
	`%$+%	!L -$b>i8&v)-'bC'	!!!$>C	ah!.)sh.)>J.)]Yw6_Daz.' g$pwsh	$B$#E@!	$L&pw`U	$T!@%yp
	$,$#E[ )$sh)$>J)$`U:q<7#C$ +&sh+&>J+#	$M!sayQ/gc;$'!`N'!xhyQV N`NbsaaoD(#@U<h/k~!u/Ms!
/gaw.@LyO,%ELECTRONICSax4xi`U?C/ib	_r !/O yp4!xish)!LEF<&>J3 a:qY$L$J$>#	$m#m#xL`Ugshayp1,
`U1&ypash.(<)>Jash.)!1&!#)M#cyp.)`U/Dyp/gcsh) 2$>J2!)#asU/g>G`Ndsacyj(#`Nyjcsayjc`N>Gcsa
>G#GO%	Rl yj/i#-D#p|zcv:c/D:qv:b% a::;($`g| a<7| b:z| a:qv8;jb=n;jay@:qqWa]Y:q~)ba&!bmyykxx;jc>H
'!`Q'!sd' a~)!@OyLaxh!Y, ;$)$`g@Ur3:q=.asz-'!>t 6!+&v8r>^-aUNCERTAINTY#a~%>mYar.@O!u?%	8g 
PLUTOaPROSERPINAaASTRAEAaHYGIEAaPHOLUSaNESSUSazcnOSELENAa:q=npV<tay%`gnOARTAaCUPIDOaHADESaZEUSaKRONO
SaAPOLLONaADMETOSaVULCANUSaPOSEIDONa	4e vKasa)$vK	T:)	2w#xx/jayp,'sh,'>J,'~$G@OpXcyLaSEDNAat1/tw
.VIGINTILEdNOV' QU0$BI2$SENTAGONdTREDECILEa?A#$^.:[aUNITEDw.aSEPARA,#>F#+1 .!sQsa/GaHELLSCHREI
BER PAUSEw.a[>'!:'d;=dz)d[=d>6d|Dd|rd>bd|id^Td^2^Td]md>0d_!d`vdnsdo*dpYdr6dsmdurdyCdy_d@^d]>d~)vdqMd
uBdy-d<,dtrd|Bd|Ad|6d~,_[fd|Td%|Vf$w?d|Md^D%|Vd:k|Vd^D'!@4d^Ud~,.d~.&,%d~'.nsd~!_<,b%	!tg	!t~a)'!`/
$>C:Bb%*&4 $Qk#v`ds'$w?b%(,# (+i $C5 `b%($'!^t0!($'!|]0!($'!/:$Mt#,%e/:b%!yz$sa]Ub'!zG$]
Ub%(#dyz$=&b'![m[eb%'!dTAILLESSqqd>d$~)Edy@s'$w?dp>$m,sj^7b!%'y@>dbvi%!^VanD!'yza)'(-_*a<g'!~ ?b%
&!'!~.ab%&!'!@sb%!@s6 #;b%&!'!>ub%!>u6 ,Wb%&!'!|eb%!|e6 %Nb%& , -Xb%& 8!xb%&!'!_)b%!_)
6 '/b%&!'!n.b%% '!oSb%!oS'kh'p>b%% '!qvb%% '!sob%% '!uRb%% '!wOb%% '!yg yg @ b%!@ q Mq 
M'l]'p[b%% '!=l/1b%'!8 Q<g/&b%)%'!<y>ub%'!N!_)b%'!.!oSb%'!J!. '!k$p[b%)%''u#!J uu*b
%'!J$u*J$2&?Kb%)%'!~ ;_Lb%($'!=l]Xb%'!P$]XP$2&[fb%)$c &|1 (#B$~%Sb%*%i%*i%*2$@vb%
)$X%#kb%*%4$u4b%)$2!p&2$p&2&oNb%)$2$p8b%)$2$zQb%)%w.^|cn.socqvsocSTAUROScwOsoc_Msocu4uR
b'!<yu*b%'!.!@vb%'#<QoS.nc~,`ASPERd~'7b'!~!B_Lb%($pQp&@gvVd>$s mYdINDIRECT-!z->,b@XpX[mbE bMOR
PHOLOGICAL>,a['%&:N1&:N~ax@!|,cYAB$ HcYAG$ HHc~!'~ ,|1c|1cYAD$ H% *!+ EYcYAFc|3cy:|3cYAKHHc|
0Y%07 0cYA6 -c~/,cy:& ~/0*!0c+c|7cAHAGGAR|7P 7cYALc~/P .cy:YAGNd|4c~//c|Tc~/1cYARRc|/N /cAYE
R|/cYAS$ %!Hc|5cYATHcYACH* TcYAVcYAWc~/3c~/4cTAWELLEMET. YAZZc|8c|MbnD!LABI'7m&thmYb<[^la?Q&LOA
cMOAcROAcS$ HOAcBOAcTOAcCOAcN$ YOAc[Ap?cZOAcD$ % JG HH % P%!OAcGGW%!I% EE&!cv>cvHcvFcSSAA
cSSEEc~,gcvGcCCAcCCUcCCI, - EEcCC$ Oc|~c~/gc~/dcZZAAcZZZ /cc~/fcCCHA% U% I/!0!EEc;d) OcQYAc
QYUcQYI, - EEcQY$ Oc`-cKYUcKYIcK= `.cKYEcKYOc~/)cXYUcXYIcX< XY ~/*cXYOcGYAcGYUcGYIcG> G> GY
$ Oa<Q=5!(!]%(!Y (!Q4(!K*@4dES-TEd,%d]yd>/dnJy]d|5d|Td^E,%d`t	7%$E' asa/Gvkm]c>B' a`Nvk;)asa
'!`N>B0$)%2~&.m]b>B(!a>BxrW!xrG!'#2v8a`Ns2~)^#*%EDITORIAL CORONISaq;a~$fq;asQ(#HYPODIASTOL
Ea>BOBELOSa>J~ Gayp& >Bsd/Ga>Cp@]ka^@^=aq3;-a]k$=jaxF$sj.na`Nm,~*-;)asa*%xF	fM :[a`Nz.:B$s!asa*%x
h`N[m;)bsa' a;$0+`NuKyPs!)$`N>Cq@asa'!yL>ApwpX>?r`a' pw3 r`av9$*y%mYasQs mYaz.xFasjr2azuthn2
>?ay@<Ras2>?b<Ray@tea=;$`N~%@csa~%@ay@=;axh[mtY#aTWO-EM=F$2C +!STENOGRAPHIC@gvVaz.ua>Aaziz.`laCAPI
TULUMa>C]kasQ<Ra>CLOW-REVERSED-9s%mYa=F$`Nyoa>Cw mYa^@m,_8d$_8.na+ c$>?a>CSTACKEDg Bv!ay =;amx<RaP
ARAGRAPHUSmYaPUNCTUS ELEVAT3!CORNISHz->,a<t~*0$sa~#)d`N~#)a~-c#'?Mamx%C(#!#%!v`asa*$4%>C6!,'x
h[m`Nq@csaq@a;$.)p@]ka<<s-sHc<@ctX#:2!cqcc;(cw7c_g4!c~#ictUc%.#`>#:]%cuvcx2cuw<#]2(#[rcs5cCHO
KEcvtcnOc~#Rc~(^cCIVILIANczPK#@/cqK+#uV[mxu~.(c<nc>:c~&5c:|pF<Fc?_cv3F#:;cuQc;JuQco?	!Q'~(Ccu)cs3
c~$PcpQc;5R#msc~(]c[MN%cxAc<Gcz]@#;JtZcuV]Zc]Zc;Jv0du+c@Kc;J~!^cuVzKczKK#~!vc;J[Dcm#]%m#d~$zcnP
1#s1c:w[ -B`Kd`Jdzjd@Dc>k	!C$;J>kc]/c;J][c:~c[3 @1d:ndt:cuVz`d|;3 _c^W?Tc;J?Tc^Wxgc;Jxgc^W>Le L
cyBc^WyBc;JyBa_'s-pXc`lc>?cunctXc]UcyLc~'?cmPcLEGSc~$Bc>vc>G;(c<lc]qcw7cp^;(c_gcrFcWRAPcv6csa5!HIDI
NG?1cwa	&`#<@cPRIVATEcAGAINcnSc?1c>hcSCHOLARc[BdSLOWLYcEVENINGc:kczoc<$cROOFcINCHc%c`>cCORPSEcSPROUT
cnQcRIVERczvcONESELFc~.:c>Qcu>x2c>B<@cm#STRIDEcyL] cSHOOTc;%cuwcBRISTLEcvPc]2cHALBERDc~#pc[rc;-cs5ct
ScDIPPERc:#cv8cotcvtc~+jcnOcxucLACKcvVc~#RcWEAPONc>4otcCOMPAREc~$nc<=c~,lczPc@/cCLAWc~$Uc>C| c	(b#~,
IcFANG	(k!PROFOUNDc~&5c~(?cxGc~-#cLIFEcUSx X	)0#SICKNESSc>BwdczccSKINc>'c?_c~,[c/gcvUcv3c~-scGRAINc
CAVEcSTANDc:;csVcuQc~&6co?cu)c?ucpQc/DcPLOWc>gc;5cmscMINISTERc~+qcARRIVEc~(]cxdcOPPOSEc~!@cSTOPPINGc
COLORc[McxAcINSECTc~!<czK?1	*6 ctZc]Zcv0cVALLEYcBEANcr!c~ rcu+cs>cRUNc@Kc~!Ac~!^cBITTERcMORNINGcz: 
vczkcDISTINGUISHcVILLAGEc[Dcm#c	*T cSLAVEcu>w@:n	*]!WRONGc?kc`Kc~-B`KcLEEKcv'c`Jczjc@Dc	*b FRAGRANTc
	*i wEc[jcFIGHTcSACRIFICIALzkc~!`c[3c@1c:nct:c=Ucz`cHEMPc|;cMILLETc:qcEMBROIDERYc@_cTRIPODc>Pcs6cosc
?Tcxgc	+= ~$`a]w=b;o`NxVsad.nxV:[d. n2/D2!+#:[d@gv~dv~@`.nf:[f`Nfym`Ngsafm.`Ndpybv,%aI!aDITTOmYa
^ZINDUSTRIAL~,jw.a]w^QmYb<EmYbp(|k!48 asa/G	6f!0$>C2$<h0!<h.!zc0$zc2$:q`]2!)$r@mYaGETAmYa`N
!4Z#) c$P$) 2$F&zcH(v84!)$zR=FasQ>CrQs%mYa)&m,+&r@mY?ka]#$2L6a]w~';xZmYbsl'!=_'!ENTER
ING- a]!uX>?8!>C)#azU=Faz._%sHmYd$z=v'mYdmYym[m/#,$mYm.[ma<7r@l ww]`l?wthw.a]#p)&>z!az.	%F aM
ASUmYaqCALTERN	Ck Z z&^-b[m@(v,a]J!%,%c,%c%]mc]mc%yPcyPc%>dc>dc%p>cp>%mQ _Uc[5c_~c[Yc_;c[#c_kc[Bct
3c|^cuGc|ucvcc|zctTc|gcu|c|x%B, x<c=ic%y9cy9c>RcwTc=RcxVc>4cnwcoScp%&IL [f%ff ]Cc:jcqvc]bc;6cr]c]
.c:PcqMc]O&~? m>cn.cn]&ND %|,c|,c%|Tc|Tc%|Mc|Mcs(csTct)&N- %zHc# e&Hi ntczCc%^ud_;a<Q_5	%* cta
' a0%b0$]J^QmYbz='!=zYORIa_5>C]ka_4	$_i	$_~	$_~cy|cz3cz(cz:bn2>?a_5~*g	$h 4	$W)~&la;!!:(cq'cm=c?
hc=6cw2r `/c@jc^tc[ec^Vcric| cZHc~!jctqcs'c|]c;Ict2c,%%IA >sc/%c>tc/ycprc/Bc?.c/Ec?4c?E%uP!Rcyzco
EcGNc]~c(i? coia]!!&]1/vE&]49vCcq|&ht8&ahXb@)b!vB&][%~+Ccs`c~+F&[; H&[' ~(M&iX!r &iI!qzc~*
M&hk,u_cu]cq6cv@&Z<%&d/$&bA#~/;&ag#~/&a3%Ea]w/JLINKINGmYcsPmYcpXmYcyLmYcx3mYc@U* hmYcn2mYc;$
4 0mYctX9 &/ WmYc]4mYc>H mPmYa;!!;6c|uc^ec[Yc>oc?5cpZc~)nc^GcANNcINNc~.Tc^!cNGGcA0 AUNNc/?cpSc~
)mC Nb@*!%lD#[eb!GHc`cc~/b: @jb!GWc`'cpEc/#a<<v`w2cWGcXGcBXGc~,~cHZZcHZGc]acHZWGcS% HZT9 PcHP
.!W. Zcntc[ect2cq'cSPc=6c~%vc~%WcSZcSWZcvIcSGcPDcPZcTNcSZZcSb XWGc!GcPGcria_4!%_~duGdvcdxVdp%d[f
d]Cd]bd].d]Odn]ds(dsTdt)ds:dsoaqA]!_`&p= &p:#u[&dS0_`,%coT,%cxC,%csW,%cn4,%cqy,%cu[,%c]z,%c<2% !
,%c_NM #C r> F>!yPb_r;oOJEONdp>]bb]v$Fj8nOc@/czPczsc~(Ec>hcvtcvTc~%Oc~,Qco#c~,]c~$Zc~!~c~' cREP
RESENTc;D pc~,zc~$Cc~+9c~ CcFESTIVALcsLc~+qc~+/a<7]vs cKINDERGARTENctOc~&lbp(wapV:qv8cyI)$x))$@R
)%%)$uf)$to)$>z)#a~*.#a<7p(yI#e25x)d>+b	%b,	%b~b_r;oCHAMKOdJUEUIb]!]zyPa_r	<b <7	%ppSECRETcmN
c?ycSUITABLEcEXCELLENTc~*ecATTENTIONcITEMcsLcCOPYcCORRECTc]Gc;icm,c`NcsacMEDICINEcRELIGION	&l0oYbp(x
)	%:'@Rd	%X6@%a]ww]w.@LJANUARYeFEBR)!MARCHeAPRILe~(5eJUNEeJULYeAUGUSTeSEPTEMBEReOCTO( NOV1#DEC)!
av8~%WbERGb?SaLIMITED LIABILITY#a<7_4%]Y#>d	8/!_Uc_~&cF t3cuGcvc&gg!3cx<cy9&e` 	7Y-]Cc]b&j' 
	7;(&b: 	7/-	7+'av8?Fo#REIWAbAPAATObARUHUAbANPEAbAARUbINING' TIbUONbESUKUUDObEEKAAbONSUbOOMUbKAIRI
bKARATTO( ORIIbGARONbGANMAbGIG% NIIbKYU>!IRUDAAbKIRO%!GURAMU+!MEETOR,#Wu!=#'$TONbKU$`j * 
OONEbKEESUbKORUNAbKOOPObSAIH bSANTIIMUbSIRINGUbSENTI&!ObDAASUbDESIbDORUbTONbNANObNOTTObHAITUbPAA
N!) TUbBAARERUbPIASUTO*!KU'#ObBIRUbHUARADDObHUIITObBUSSYE9!RANbHEKUTAARUb~*>bPENIHIbHERUTU. S
& EZIbBEETAbPOINe ORUTOb]SbPON~ OORU& NbMAIKURO( RUbMAHHAbMARUK- NSYC B (!RI%!BAARUbn!bMEG
ATONb	%-#YAADObY?!YUANbRIT9!RIRAbRUPIIbRUUBU3 EM% NTOGENbWATTO	*[$]^|kf#:o4fwaf?'fyHfx(f@Vf@!fu
bftnf>wfo`fyIf~.?fyKf~.@f~.>av8HPAb=7b/yb:Bb~)xbPCb>3cv9c= b^Rb?Fo#HEISEIdSYOUWAdTAI* dMEIZIbCORPOR
ATIONbq(AMPSbnwbn],%bm>b^ubKBbmebGBbCALbK% PFbNFbn]?hc@jbMGb~&Ub~%vbKHZbMHZbGHZbTHZbn]`/bMLbDLbKLbF
MbNMbn]m=bn?b<Mb_fbn?v9b<Mv9bm=v9b_fv9bn?= b<M= bm== b_f*!pwt2ev9bq(b_tb~(abGPAbs+c9%PSbNSbn]t2bMS
bPVbp0bn]yzbnlbKVbnln!bPWbNWbn]zGb~(fb`'' n!b^tpKbm=pKb/?bBQb~!cb~!db;Ipw~&Ub<Nb~#HbGYb[fb]ab^(b_bb
_f'bKTbLMbLNbLOGbLXbme%bMILbMOLbPHbPMbP$ RbSRbw#bWBbyzpwm=b,%' 	&t$=I	&qffyJfTWENTY-SIX+&EVEN-%E
IGHT-%NINEfx)fTHIRTY-ONEav8@qa]A@LwwCREATIVE]4dRECEP, >hcDIFFICULTY/uwwBEGINNINGcYOUTHFUL FOLLYc~.
kcCONFLICTcwwARMYc]RxXc%~-@cTREADV qN	Ws STILLcFELLOWSHIPc[O~*`cMODESTYcENTHUSIASMc~$bczvpVwwDECAYE
Dc$OE!cCONTEMPLATIONc~!1x5c[JcSPLITTING APARTcsNcINNOCENCEc[O~-@cnS<i+ *dcwwABYSMALzPdCLINGING@/cI
NFLUR!DUR	!' RETREATc[OrFcPROGRESSc~#EpFww`gcww~$ScpccOBSTRUCU!DELIVERAk ~#Tc^)cBREAK%X+!COMINGx
V~(>c@yxXcPUSHING~.VcOPPRESSh wwWELLcREVOLUT2#~!`dAROUSb 9d~&NSTILLnQcDEVELOPMENTcwwMARRYING MAID
ENcABUNDANCEw ANDERERdGENTLEzjdJOYOUS~'&cDISPERSIONcLIMIT	$x!&+TRUTHc%~*dcAFTER<TcBEFORE<Ta+&^Oc~&2
c]mcIPcIETcIEXc]ycIEPc/uc~ ec,%c~ McUOXc~.UcUOPcpocq#cp>cp]c?Vc>dczzc~!0cBIXc:jcBIPcBIET% X% cBr 
:JcBAXc:)cBAPcBUOX% cBt BOTc;(c:xcB. EXc:' Pc;DcBUXc;6cBUU RXc;AcBYTcBYXc;FcBYPcBYRX% c~*TcPIX
cqvc~*PcPIEXc~*G) PcPATcPAXcq(cq7cPUOX% $ PcrAcPOXcr/cr=crccPUXcr]c~*mcPURX% c~*qcPYXcPYcPYPcPYR
X% cBBIT% Xc~ x) P% ET&!X&!%!7 AT% Xc:N( 2 UOX&!%!1 OT% n ycBB3!EXc:O( Pc~ |J ? 
z) d!RX&!cBBYT% X% $ PcNBIT% X% $ 3!EXc~(w*!0 AT% X% $ 3 OT% X% $ 3 UT% X% $ 
3!RX&!cNBYT% X% cN	!@ YRX&!cHMIT% X% $ P% EX&!%!1 AT% X% $ 3 UOX&!%!1 OT% Xc~%d
) D!T% H!$ 3!RX&!cHMYX% $ P% RX&!cn>cMIXcn.cMIPcMIEX% $ PcMATcMAXcm>cmUcMUOT% X% $ P
cM2 OXcnAc~([cMEXcmpcMUH Xcn]cMUPcMURX% cMYTcMYXc~(kcMYPcFITcFIXc@ cFIPcFATc?sc?icFAPc~$ic@FcFOPc
FUTcFUXc@fcFUPcFq ~$ncFYTcFYXcFYcFYPcVITcVIXcz3cVIPcz4cVIEX% $ PcVATcVAXcy|cVAPcVOTcVOXcz:cVOPcVE
Xc~._cVUTcVUXczCcVUPcVUR8 jcVYTcVYXczEcVYPcVYRX% cDITcDIXc=icDIPcDIEXc=r( Pc~#FcDAXc=7c=EcDUOX% 
c>?cDOXc>4cDOPcDQ RcDEPcDUTcDUXc>RcDU/ RX% c~-dcTIXcx<cxLcTIEXcx?( Pc~-DcTAXcw3cTAPc~.8cTUOX% 
$ A ocTOXcxVcxhcTEXcwTcTEPcTUTcTUXcy9c~.9cTURXcy=cDDIT% Xc~#O) P% EX&!%!1 AT% Xc=K( 2 UOX
&!%!1 OT% Xc=QcDD2!Eu L) Q!T% 3 .!%!R/ QcNDIT% Xco3( P% EX&!cNDAT% Xco.co0cNDOT% 
Xco4( M EXco1( - UT% Xco6( 2!RX&!cHNIT% X% $ P% ET&!X&!%!7 AT% Xc]N( 2 UOX&!cHNO
= /!O: ]!E$ H!TcNI$ XcoScNIPcNIEX% $ Pcw nwcv u % $ Pcotcv olcx w o7cu ~)QcNUXcp%c
NUV RX% cHLIT% Xc]L( P% EX&!%!1 AT% Xc~%c) 3 UOX&!%!1 0!/ .!c!E$ M!T% Q!$ 3!
RX&!cHLYT% X% $ P% RX&!cLITcLIXc`ec`ocLIET% Xc~'@) PcLATcLAXc`0c`BcLUOT% X% $ PcL2 OXc`z
cL/ EXc`HcL[ UL Xcm0cLU/ RX% cLYTcLYXcm:cLYPcLYRXc~'WcGITcGIXc[5cGIPcGIET% X% $ PcGATcGAXc@k
c@wcGUOT% X% $ Pc~%9cGOXc[BcGOPcGc EXc[#c~%(cGUP Xc[YcGUPcGURXc[bc~&acKIXc_Uc~&`cKIEX% $ PcKA
TcKAXc^uc~&HcKUOX% c`#cKOTcKOXc_kcKOPc_BcKEXc_;cKEPc`&cKUXc_~cKUPcKURXc`$cGGIT% X'2X IEX&!cG	#K 
GAT% Xc[,( 2 UOT&!S /*!6 5!4!,c~%-cGGET% Xc[-!Z!Y!D .) 3!RX&!cMGIEX&!cMGAT% X% 
$ PcMGUOX&!%!1 OT% Xcn-cMG2!a!E$ Q!T% U!$ 3!RX&!c~%qcHXIX% $ P% ET&!X&!%!7 AT
% X% $ 3 UO4 	#m s*!6 5!OX% c~%rcHXl!E$ PcNGIEX&!% 1!AT% XcoF( 2 UOT&!X&!cNG0!OX
coOc~)3cNGEXc~)') Pc~%acHw ]Dc]*cHAXc[fcHAPcHUOT% X% $ Pc]]cHOXc]OcHOPcHV .cHEPcWATc~.qczHc~.m
cWV ~/%cWV WO';2 PcWEXczXcWEPcZITcZIXc|ucZI/ EX% cZI= ATcZAXc|^cZAPcZUOX% cZq ~/_cZOXc|xcZOP
cZEXc|gcZEH TcZUXc|zc~/`cZURXc~/acZYTcZY, bcZYPcZYRX% cCITcCIXc<1c~!tcCIET% X% $ Pc;bcCAXc;Kc;
WcCUOX% c~#.cCOTcCOXc<NcCOPcCEXc;ecCEPc=/cCUXc<zc=$cCURX% c~#7cCYXc~#4c~#6cCYRX% cZZIT% X!:H IP
c~/e) EX&!cZ	$% ZAT% Xc|~( 2 OU f) . E. ccZZN!U. g) .!RX&!cZZYT% X% $ P% RX&!cNZI
T% X% $ P% EX&!%!1 AT% Xcp=( 2 UOX&!cNZ*!O5 W!E8 =!c~)`( RX&!cNZYT% X% $ P% RX
&!cSITcuacuGcSIPcSIEX% $ PctGcSAXct3c~+gcSUOX% $ Pcv&cSOXcu|cSOPcSEXctTcSEPcSUTcSUXcvccSU/ RXc
vzcSYTcSYXcSYcSYPcSYRX% cSSIT% XcvF( P% EX&!%!1 AT% Xcv>( 2 OT% XcvG( 2 EXc~,gcSSR!UT
% XcvH( 2 YT% X% $ 3!RX&!cZHAT% Xc|m( PcZHUOX&!%!1 OT% Xc|scZH2!ET% Xc|o( U!T% Xc
|t( 2!RX&!cZHYT% X% $ P% RX&!c~!mcCHAXc;k( PcCHUOT&!X&!%!7 6!OXc<(cCH2!ET% Xc;t( 
[!Xc<0( -!RX&!cCHYT% X% $ P% RX&!cRRAXct&cRRUOX&!cRROT% Xc~+U) PcRRET% 3 )!PK T% 
U!$ 3!R/!x YT% X% $ P% RX&!cNRAT% Xco|( PcNROX% $ . ET% X% $ 3 UT% X% $ 3!R
/!r YT% X% $ P% RX&!c~,!cSHAXctr( PcSHUOX&!%!1 OT% Xcu9c~,)c~,$cSHEXcu&( S!T% XcuC( 
2!RXc~,/cSHYT% . 5) P% RX&!cs6cRAXcs(cs5c	$w UO$ PcROTcROXcsocR/ EXcs:cREPcRUTcRUXct)cRUPc
	$j URcRYTcRYXc~+ZcRYPc	$e YRcJITcJIXc^ecJIPcJIET% X% $ PcJUOT% X% $ Pc^pcJOXc^icJOA @ Xc^rc
JU/ RX% cJYTcJYXcJYcJYPcJYRX% cQITcQIXcrqcQIPcQIET% X% $ PcQUOT% Xcs$( Pc~*vcQOXcrrcQOA @ 
XcrvcQU/ RX% cQYTcQYXcQYcQYPcQYRX% cJJIT% Xc~&:) P% ET&!5 ;*!6 UOX&!%!1 OT% E <) Pc~
&>= 2 =) V!RX&!cJJYT% > ?) PcNJIT% Xcof( 2!ET&!X&!%!7 UOX&!cNJOT% Xc~)>) >!Xcog
( -!RX&!cNJYT% X% cN	!8 YRX&!c~)^cNYIXcp8c~)], ET&!X&!%!PcNYUOX&!%!1 OT% Xcp;c~)_7 T
% Xcp<( PcXITcXIXc|&cXI/ ET% X% cXw XUOX% cXOTcXOX'UE PcXYTcXYXcXYcXY/ RX% c|JcYIXc+cYIPcY
IET% W :cYr YUOT% X% c~/Gc|RcYOXc|McYOPc|WcYUXc|E N RX% cYYTcYYXc|ZcYYPcYYRX% bs-~*vc`ec~&a
c~)]c~#6cvFc~%-c~%(cn.c~%qc~'Wc~ |c~([c|Mcrcc~%sc~-Dc@kc~/`c~#7c~#Qc;Ac~%/c~)_cy9cp]c~&>c~/_c~*qc~%d
c|Jc~.jc~,5c~._c|^c^ic~)`c~&?c~%9c~&;cznc>Rc~,/c~'@	93!.c~!tc~%rc~,!c~/ac~,)c;tc~/ec~(wc_;a`r!:)
&lx =7&LB @k&u] ^X&La >`&L3 m>cnwc`0ct3(&j oFc[fc|!c]Bc?i&mO |,c[.!), >dc?R'OU%WcyYcpEcxZnq
x<dnwr/dnq~#5e:xenweJEUbr`&xh az &>ocEENc]7czYcW+ qRcBHEEc:Scmic~&ocMGBEEc~$~c?vcz+cwXcwxcDE DH
& `Lcs?c=Tco2ctZcu'c|hc|pc~!fc^_coec|9c_<c~)*c[%cmzco8c~)Zc]mc^(c]Cc~%^czecWINcqvcBHIc:jcmjc~&pcMGB
Ic~% c@ cz3cx<cx!cDHIcDHHIc`ecsTc=ico3cuGcu/c|uc|qc<1c^ecofc+c_Uc~),c[5cn.coScp8c,%c/BcNGANc[fc~%Kcz
HcWANcq(c:gc:)cmfc_tcKPANc~(G(xl y|	%~!=gcDHHAc`0cs(c=7co.&Pq |^c|m&WT ~):c|,c^uc_$coHc@k	&>!p3cp
ZcOONc]TczrcW+ r<cBHOOc~!Ccmmc~&qcMGB1 %#c@Ic~.hcxfcx-cDG DH& m&c~+Rc~#oc~(ycv$cu<c~/^cZ> <ec~&
Ac~)?c|Pc_pcoLcGOOcnMconcNYOOcyPcydc]bc~%oczzcWUNcr]cBHUc;6cmnc~&rcMGBUc[!c@fczCcy9cx6cDHUcDHHUcm0ct
)c>Rco6cvccuCc|zc|tc<zc^rcogc|Tc_~coMc[Ycn]cp%cp<cp>cpVc~)2c]Oc]Scznczqcr/c~!*c:xcmlc_ucMGBOc~%!cGBO
Nc@Fcz:'*2 ~#`cDHHOc`zcsoc>4co4cu|cu9c|xc|sc<N	+` >c|Mc_kcoKc[BcnAcolcp;c>dc?.c~)(c].c~%T	Fm NcqMc:
ic:Pcmhc~&ncKPENcMGBEc[ cGBENc?tcz(cwTcwwc=hcDHHEc`Hcs:c=Rco1ctTcu&c|gc|oc;ec^^codc|8c_;coIcoJc[#cGE
Ncmpco7cp5coEc`['':#s mYb&o5?id^udv$bw.FEENGcK&!TINGc~)8cBANGc?jcw4c=CcDOOC UB * DO-OcJONG&Vp;
&o5m>d>4a=5'!~/Ub%&!'!>bb%% '!sQ>ab%'#'!^Cb%!^CB /b%% '!nJy]b%'#'!~!NpTb%($'!oA|@b%'#'!|B$:,
1 *%u E|5b%'#'!sQ|Tb%'!<!,%b%'#'!<D)`0 )$'!~!41 (#P!D%+''!|Lb%% '!sQy*b%'#'!u~=Rb%
'!.!? b%'!.#+b%'#'!nHp>b%'#'!~!// ($'!>C@#)%!MULTIOCULARp>a<Q=5VZMETcwan8#c]f& x0n8#aSLAV
ONIC/sG!!y^]yd]md+dyP)d9&pTc_8c~*2a=5_8b~*2b'!>Zb%% '!~$'b%& , /Vb%&!'!;db%!;dB!(b%&!'!wT
)S* *&'!yFb%!yFJ ./b%& ,!-,!-, -Hb%&!'!]jb%% '!uX uX >Cp>b%'#'!<u. '!anD!=5]'#du~#	#R 
>pd^E>da:=!,%c^ucyPc_~c>ocs?cw9cp>cp8c]mc`0cq(csic~+@c~'4cm|cw4co/coccm=cw!cn]cu2cuGc~,%ctlc`.c_Bc~)
Ncp%c~)@c|QcuCc|Uc|,co~c~&Scqdcoecp#c~*lcz|cqRc?vct)cm0	2?!sOcs.c_?c~)1coHcoFcu9cr_c@fc@HczHcnwc`ecq
vcm)c_kc~(7csFcn%cm>cx<c_UcnAcmgcwic_tcwac~)Lc~+dcFAAMAEcKOVUUcKOGHOMb<QmYKOQNDONdTUKWENTISb~);'2k!
'iJ s mYanD!<'xZ|Ir$e|4% I~+|e|4&!Irve|4% It)e|4t)c?[>B* v )$n0)$m,)$?])#M!`SO$+&n0+&m,
+&?]+'[U&S&Q&O&)$>?z.:Bdund]YA .sa<h/Gcs2yj/gd>G/gd?WmYd^@' cm,)$v]/D]GxZem,xZa)'!>r/1b%
'#.!&b%'#'!];b%% '!~.Jb%& , -|b%&!'!<+ <*#$<Rb%($!%'?het2b'!.ib%% '!/Qb%!/Q* y* y* z
* z*!$]Y:Bb%*&'!:$b%% '!sQ;I$>?b%*&'!^t$v`b%(#0!*19 *%D%/D8#.*'!;3`/b%'#'!`/$]GF *&'!
p>$*!, %,'8$'4$'0 Zb%% '!q'$v`x5=`b%,'8#@Bb%(#0#~,cw?b%+''!ri_&,'8!	#E!*&'!s't!b%'#'
!t,. '#'!yzP$*&'!zEb%% '!~.e|]b%($'!x.$L (#0!	!L$,'X!^b%&!'!?Mb%% '!^Ib%!^I@ !|b%& an
D!yua)%!DUMdm7dMUMdNUMdt,b!%'t,b%!y<dya` 9=6b%'!.!?hb%'!.!@jdy@' b%!)$'!y@`/b%'!E!s'b%'!
.!t2b%'!.!w.#w2anD!m,<:.pc<Pcu>?A#a)'!~+cb%& y![eb%!&Y= /D:]b!SIN# c#?b'!n#,v n)n!!I$:Bb%
(#fq0]Ud[e*F;!:(	&O (#'!?h	$z (#'!z>.wb%'!.!pEb%'!.!yWb%'#'!@j$p@] *#	)$!4$*&'!n4&n4&
s'4$*&'!t24$*##/O!&^S#dtS@jd`/$:]d%']mb!%'rib'!y@^tew2&]W ;~d:db%!:d)x6')qi!)qg#A,%b%'!
.!]mb%'!.!yPb%'!e Qr9p>b%)%'!~ HzGb%(#	%& &a>!&a$%=6$u>	+<!,&	#S 8%,('!<D	'T )$d>Cx.ez
: n2~+mt2b%*&'!~,72 (#anD!';Id?hdria)'!sQ#1q )$?>!uK]mH![e$v`c%`fpEa)!%'y@m=A sQ?heq'd^@m=d]
mm$d/`m=aw-o !,%d]mc#DVISVARAc!'1O!c#~%Mc!_kd_Pd[Bd~%3c#/Pc!<Nd<(d^idJHOdy8dy7d=Qd~#NdxVdx,d>4d~#`d
oldr/dqsd:xd~!*dnAdsod`zd~+Udu|d]O'/J ]meyPe>depZcr1mZ#c#/<~%Maor^,@XpXrze[mdx3r|dpXuce>xdx3udcrzm
Ycr*mYct0mYcQUANTITYmYaqf'=u#&y~2'=k&(SA&(S>$%,%(S?&(S< !D6)rjc|!c?ic[,c>obvf!zHd|,&xb$cojc
/<|,cVOICELESStrcz=[fc*7N#?iX s(bSUPERFIXED. !;UbuX]/mYb>C'!mYttc>CttatI(|z3(K(((tSx	$/$(q!*
`xb<[#HAARU(VK9(~e1c;U)1qBa<Q=d&~V;,%dyPd^u'B0 s(dz3c#/|a=d(x6!z7c>C'!;Ui#/|cPUSHPIKAb@w@)b;
Zb]1b#uIbJAINpSb!:$bz@#:$a_:`e	!L:(WJ%oFdt3dtr(M] w3d~%mdnw'BY$=7d:)ds(d|,d`0dzHdwpd[fdy|d;Kd,%dp
Ed]mdpZcz@yWd>d'E( p>cxZ~*Yd~!Xe~*Yc#=2dSHYAasD!'W,4'=,$t3	&.!|,czHc[fcmfcoHco.cNYJAc,%'=5#)(O&
d?Rd>f'(M ntds'd[ebz7btYmYa]!<*TIKEUT(:f ~-_c~-ac~-]csYc~+Gcs`(=Q&N#!`u 8((K0 +Acs^8#(G/ ~+
B(=v%`$n6(J`%(?k!3#(I`$*Ic(>7#(HI&(<g ,!(;n (Fz$1)y%(H5 ;$&!-v F#YEORIN6!a^[#PAN
YANGGAc~!ecLAYARcWIG5 '15 KAWId	+l!q(CEREKcoF~'6eRASWADI).@$^udtFdnfc@kdnf	+k dnf	&- (!mG	+r dmG
c=K& nwnfcw3G =71#cq(/ :)dnf	+t$dAGUNG'2!#nfdmGdc[fb#~!eTELUbz@#TARUNGdTOLONGd~/$eMELIKdvoeMEND
UTdwDdDIRGA MUREdqYb<[#KERETdPENGKALd~!WbPANGKONb`N~+8bsa& q+ANDAPcMADYAcLUHURc~.zcL!ATcLINGS9 NG
SIc.ud.uc~*Sby@q+~*Su!RL EP	Qw<q+TIRTA TUMETEScISEN-% anr!t|[.d;kd^cdojd:gb#t|tJbnD!t|~+4b!w>`6p3
e?ie@ke[.e^Xe^ce=Ke=Peojb? 'A:9e#`xe=7e=ge:)e:ga;m!	32#	&M$	18(NGUEcoF	s+ HA	1?!NH6 RcNHJA	1:(NU
Ecnwc=Kcq(cPPA	1E%MUEcm>c:N	1L')0s0>t'Z4 p>d/%d/ydyWb<[#(e/#zHb!@*^td@jdoE; @*oE4 ~!jdw2'1l |*
ds'd`/dv=D#m=e[e	%_<r`v2c=Bc>C=Bcy =Banr!_H@k(gK$^c(gN*=gdnw(fh ]Bd?ibnD!_H~+4b!_H|!d|^ds(bm4 )
adQNdHMbw./)?W	1I b!/)s(b#PAO_/xZcw>`6x]ex`b!uFq1;ketraw>z4!m,_kd]G_kdm,_P* Pdm,~&]d]G& m,[Bd]G[Bd
m,oOd]GoOdm,<Nd]G<N* (* (dm,u|d]Gu|dm,p;d]Gp;dm,>4d]G>4dm,xVd]GxV* ,* ,q lq ldm,:xd]G:xdm,r/d]
Gr/dm,qsd]Gqsdm,@Fd]G@Fdm,nAd]GnAdm,|Md]G|Mdm,sod]Gsodm,`zd]G`zdm,z:d]Gz:dm,]Od]G]Odm,p>d]Gp>cmI_&cz
@	&~ yWd	=x$mIKHITcz@]ndUEAdySd~ bd:$d/Bd/?cxZmI>|e~)Oex,eSONGcw.~&id~)Odt<d]OHOId_m_man md!w!d;k
(lf-trdv>cz@#^ eywe~ )e/yeAAUcCHEIKHANcAHANG KHUDAMc/Ic&sJmYczu'#@#z8cz7a?Q&TTHUc~.3cy6cTTHEEc~.2c
y7cDDHU% Ic~#M) EE&!c~#Nc~$&c~$#cDZAAc~$ c>ac~$%cCCHHA&!U&!I2#3#EE'!&#Oc:Nc~ z!GS AAcBBEEc
:Oc~ ya)%!:E/:d,%#: #SCHWAd:u>dd:E>dd>d$@Bd~'7?hdtS@j'&n ^@`Gt2f>Cn2xFfn2sjdm=< nt& ?4& :up>f$v
`dp^p>( ^@pEdy@pE$v`g]Yv`ep>~)qg< STIRRUPs'b!%'s'$*e' s'zm~%Ld>Cs'ds'x >C(#tSs'f$sjd~ t?KdyP$u>
V e:B*$dyZdy@yZ< `N]Ud;~e$m,sasjg`N~+ud| 0$fm#`N`Vi/D0#i$?!*k$anD;0$^@;0b!%];	#o&n2xF	!&#a)%!
SAKHA|5d^E>ddp^pEd~.Ud^@/:a[Q!%'pTF >_=z'+I &*&@'/. '+M zGc`Nw8csaw8a;y%!,%'ij'yzd@kd^ud[#d[5d
[Bd[Yd~%Dd[fd(,G#]bd]id`0d`Hd`ed`zdm0d~'Pdm>dmpdn.dnAdn]dnwd]Ndo!(-@$p%dp0d~*wd~*xd~*yds$ds&d~*~dt
3dt2dtTduGdu|dvcdw#d=7dw3d=RdwTd=idx<d>4d>Rd~#|d>2dxPdxQdxSdxTdxUd~-kdy'dy*dy-dy.dy/d~..dzH(.t%zd~/
&d|,	+> ~&hdt<d`5dn>dq(dnwdCHILdxEdKHOUd~)4dT) WAId|4dHUKdydd]mdPHAMdATIYAdGOKdJ/ RAId:)d^gdDILdG
X D% B= ~&hm%d`5m%dn>m%dq(* wm%dxEm%d~)4m%d]mm%cz@#ONAPeI% A% YE& SOU' %!CHE?!p.	,s!EIcm7~
&3cAPUN( 	BS:a]!^sO-YEOcO-O-IcYO-A%!E& EOcU-Y&!I= U8!U-OcEU-A% EO&!cE5 I-YA'$EcIY &!cI
~ + 0!UcI-I(aK A($Eb^oNIEUN	?E!,!(ZT#vEc	A/&	?u 	A^$5#(`a(-]7$d%/$	@y$~+G	AX S$	@D'8!
	A9#F$(_5%(`P'x#3*	@~ G%YESIEUNG/$	@|&o$~&I	Bt!NI (`g&1#+!6!<$	C6%1#	Cf!r (`r&	!M#
4$a#vCcq~(nH#,@c	$E APYEOUNJ!	Cp 	$^&1'	#X!U!(lB!(n>!~,Cc~,?cPAN	DP%. 	!(.YES(mN%/ 	Dm'
	Dh J!,#	FK'v?	Do$z -%	&1#a)%`fFFd@ dFLdFFIdFFLdm#t2w2dvIa/e%`fn%oze>ne^1dz2ozdn%|%a]6!|N$~%`br2
JUDEO-SPANISH VARIKAb`f|G|N|NqGb!/>:&czf/1d=>d].d^zd`?d@*n#dsKdwPc/>r-#cu5$u5>?euW>?e=:/D. g. c/1$
qGernemVc:c$=:c[8& =>& ].$mVcz', |f& wi,!N& @*^z( &#`?& n#& p,& t>F#qM( &#y(& rs& sK
& u5y!P& z'$]Qc:c$s/w s/V s/b`f/1`?a*!/1zO^L@Oe@*@Oc:T, d, d^2@Odmw@OcqS61:W61y461w[L23
61z,61qT61>y2p661wR62S61=L6&c=<,'>U8(M,'^b,'t','_>	!$/@p61[]61oP62o[4	%l%snD0*5q 
;!g;![CS&eG eG d>560c|::F8'$[qj#h/ bw.#Y1 cyL*.T cx3*$er5>J.ng:[c@U>%>Cz.:BQ$z/.nf:[cs
jc%w=A#zO.nb!oE	'&0P6&cpE,'|T,'yP	!k$cz(8'_[pE	#3$d|T,&c>d	!20[~&M_[/1mL5 h5 b`f*B- $/1U i
U h.w,'zV,'yP,'pE,'|T,'>d,&i^2@Ocy[_[	!+%mL? l? l? b!?p|:	%^*	!b*^`@ h[i'!m~'!l%h_#c:
VH$eH#e_G'!O#eO%eO$wZOKy$^`A9^`$[iA(c[iR+c_G1%I+t[	!P7ct5z,=8P:w=P,|_$*$/&	!Y*[/1,?
x	$&Hrm$[iA9^z	'W!ex2`<^9`<	!SHm~OJooOJ]9	&[:|:qJwt$vw/1,!sC,'H .'tu$=Ao#3'!?q'!=@5#2
'!O&	)|#sC	+* `'!m~'!oo@*	*&!>#:	4y VO$eO#eO#eO#eO%eO$wZOKyOJ?x$3-rm3+	'U#1!`<v$o2
`<$:4m~$/1[(coo	!oE	%['.!|:^Ie	.V#2	.V ' _G'!m~'!]9^2	.T F#eF#eF#eF#eF$wZFBy$1 	.+#B&
	.+#1)_G1,t[	!)5	.$ 82=8W7	.+$2	.$$2	.$#E)[/1,?xv:rm	#I*^zP3`<F)`<	$U?m~F9coofA]9	#='	+Q!
:!|:a>	'=#m~mw@Oh]9	?& V1$e1$wZ1-y1,t[1,u(1,^z$`<1!8 	*<#	<+!L,|:1,tu$?q1!=@'!_2mw	&N 
	/0+/&3.[/3.t[3.u(Y/i$	6B-3._G3.t53.=8	!8.	1T8sC	!r#*%5*%=8*%w=$	-*,&3.[/3.t[3.u(Y/i
3.^`3._G3.t53.=8	!8/^`1![i'!_G	.t'sC	!r#*%5*!	#n#e$	-+9[$	)t!u(*%w=$	-i'mw^!mw^!	(d!80
Z%*!|_*%/1$?r@*@Of^L@Oa~)t'%M$*`fRAHIMAHU~ Acs,/6ANHeANHAA& UM&#.$NNAcSALL# AHU/.WA-AALIHc/.
/ncALAYHIM*'AA/nc/.AS-SALAATU W,%McQUDDISA SIRRAHy%x$w!EE WA-9!Mt#r!TABAARAKA> TAAp c	#2#M
~ A	2; $m~	%,!	%|!h/ g6$_G@%	.j$g[i'!_G	2P#m~$[i[&c[i2 	&w g/1mL	&Y#	2k%	3*!@(ef+gI#g	9?!
	2i%E'T#m~	'>!< N$	!)#|:|%_G|!t.=8$	)f'_G$>)w=	#F 	$&+g	+6$	$P 	!,!]'	#d'[/$;&g	$%+?x$	!:*
rm	!:%gm~	9K#[id4e^`	8*#	#.,	$g,cm~	%: 	#8+	%H#	&U)I)B#_G	3j#m~>+coo~ u 	!e)	$&0e	&~+	2E#N%
	:)#_G$	>5%^`U-e@$~9	(H$	;L#i$L)	(E'	/)$	'n$	.e$-%	'4$	=~%	'j'7%|:D'eA1m~$-'rm-%	$Y#:*
	:P 	&c!	:S%T(^zb+^`T%m~$_G	!t(b!T&m~:*b*~#`	!U#	=C#	#.%-(?xo 	CI%[i	!c(	<S($	=P$:%	%4#
	#.%~(	/0 UHU ALAYNAAc~+a~.X/m~&kvV#^L@OcQALA4-ALLAH*#KBAR*!MOHAMMAD^L|$M*!RASOUL+!/-'!~.n
(#+a($b/-~.ncJx JALALOUHOUaRIAL#a*`fBISMILLAH AR-RAHMAN*$EEMcSUBHAANAHUzH	0Z#AZZAzHr az&SELECTO
R-1(b-'0&arP@O@Lz.<Re]w<Rf@gvVe<Petee?WmYes mYe#vv!esa) BRAKCETe]Y?)a<Q`f`N[mcsa[mb>CxF. d.!m
A:'~# mAbL#:[4!:[bxF0+mA0*V#:[b=5xOy&	!~$yL>?`Ie?+=Fe?.=Fem,`lezU'!`Nq@esaq@e`N=';)esa'!
#yC 0 )$`N:q	#J!)$#z] 2 )$`N0$.$<h.!<h.!zc0$)#a~+v>?azc(!	!v$`Nv8F!' a=Gq a~!hq azUq
 a>C'!=Gm,`l9 (!zU'!%<Rb]w!Z2 );% s +'r!?+=F'=T%	#[ bsa'!`N%eT#)$p(#b/Ab/sbr-#b]lb`_#b[P#
b?A#bsPv!b><#bq[#b<S/ua*?r^L@ObwN$?r.nb=A/#?FRAGMENTb_32!?q	Q) w@Ob=@,'_2,'tu,'vp,'![q	OV!$mB
	^7&e[q.(czV$1**~@!1'|:B+g	2a wL!	[P%:V	b#0ZmW	[g%B2y61^`61[i61_G61==6&cwt,'sC,'|`,'t
[g1u(61t561=861w=61|_61/&61[/61?x61rm61^z61`<61m~	e$1	dr161zV6&c	F~$	'J!P0b`f`<$	(K&
	;3 [q.(h:[,!	BZ$f* a|kzhomv,a@h?WmYbs%mYbp(#	*^!	+( U	+]%	+5#<Rb]l	,2 v!!.v;<Pbteb`_	+c [P#	,b 
<S/ub&XMkb	.U 	,n sa,!<:.pbm,`lb[N.pb&Z^k	.a#z.`l	.f#xFb`Nzcq@b%CQ [o]w@gvVb	0v b	0v 	/j _4n2>?c
!znd%!IB'>e|,e|Te|Mey9b$$0#b_4!,%d([V&^ud_Ud_~d_;d_kdt3#wQ tTdu|dw3dx<dy9dwTdxVdnwdoSdp%do7dol
#wp*m>dn.dn]dmpdnAd|,).o #x)(dzHdntc$)X'b]!@)c!_`dvAd_adoTdoUdoVdxCdvEdsWdsYdsZds]ds^ds_ds[dsXdn
4dqydvCdq|du[dvDd]zd<2dv?d<!d_Ndx#dqrd]Fd,%d.wd|,d|.d?:d>dd|>d|8dp>dzHdzJdpEd|MdyPdz[!&5 |Td?Rd+d]m
a@h~!g#brB#bot#bmAb;3:Bb|<#bzq#a[oFORMS`gz.b`U/gbyp%wE!>J/g%>@!<6a^</J~ FcthcTERMINATORaOBJECT~+7;
oa&#`m:(&~ p,%dB038>ddB028]mdB061p>dB010yPd~ i=7dB045=Rd~ o=i: 4>4dB051>R' 7^XB 6^^l 6^ie 5^rd
B077^u< 4_;5 7_U5 0_kdB081_~' 0m>u 3mp< 3n.. 5nAdB023n]d~ nnw- 4o7dB030oSdB052ol' 5p%d~ kq(
^ 2qMB 9qve 1r/B 0r]. 6rjC 8rpm 1rqJ 2rrdB060s(5 7s:Q 3sTd~ jso4 6t)I 1t3d~ qtTdB041uG
s 2u|O 8vc' 9wB lwTO 7x<d~ mxVdB069y9A 4zHdB075zXe 0ze' 2znl 7|^< 4|gdB020|x' 5,nC 3 A3d
B085/yD 1>ZdB090 DWO? 8p1M 9 PU2dB062 PTEI 6 RA2 33 Rc!68 ROD!6 T;!87yFn 1yLcw.B018 n W!
4dB047% 9dB056Y 3@!79] 2,!86% 9c]uB100mPdB102zo' 4=U' 5 EQUID+!F MARE+!M STALLION/ 6F~$P
)!Ms3( 7F SHE-GOAT/!M .(8F SOW*!M~!?) 9F<n(!M BULLdB120z`' 1 BARLEY, 2~)i( 3 SPICE+ 5 CYP
ERUScnIB127 KAPO9 8 KANAKOc]uB130pMdB131zk' 2M!33 AREPA2 5 MERIL!40 BRONZEdB141[D' 2% 5~/ ( 
6dB150% 1]Z' 2!r!56 TURO2h!57 = 9<FdB160.!62 GARMENT- 3 ARMOUR, 4(dB173nL' 4% 6xu' 7
:!89b!91]:dB220 FOOTSTOOL/ 5~ vdB230~,[( 1/g' 2% 3 SWORD+ 4% 6dB240 WHEELED;q/ 1'#2;q@Z) 
3za' 5 cnIB247 DIPTEc]uB248 dB251!' 4 DART* 5$dz1B155eB2003eB221 ' 6#eB250eB305a.xzuth`ld
>?b;umYbp(	735c)]25pX]fcyL]fcx3]fc@U'QI!ua]fctm]fc>v]fco_'Q^ cyLx0cx3x0c@U% 6x0cuax0ctmx0c>vx0co
_'Q8!yIM )H R% %M fM oM zM ax0bzZ:Hyic@0vlctXvlcx&vlc@Wvlb>Qmq8 b~'C*$mqD&a[Q.r/x!_B e>K
d@6d@%d@6]fex0d@%% 6wCdwawCd@%wCdpX]fwCC!.!x0.!' evMdwavMd@%vMI!vMI!vMI!?!x0A!.$n@cHERAEU
MpXPLETHRONcw~pXc]=pXc?=yLcw~yLcCYRENAICyL~#sc?=(#y!@6dwae/<@Oc]=wacMESSENIANwacw~wadx)F %C%@%cw~
'UN!x3]fc?=@6]fcy!'!w~'!CARYSTIAN.!NAX+%w~pXx0d@6x0cDELPHIC@6n@cSTRAP!%n@bpX[m#e/<@ObyLx'#bx3r
|*[o TALENT#b>K#bOBOL#byLpAC & @U&!6& METRETES#bKYATHOS:H#bLITRA#bOUNKIA#bXESB!ARTABE( OU@ G
RAMMA#bTRYBLION[ |k#bpXrz#bSINUSOID#bINDICTION#aNOMISMA#asvSEXTANS#bUNCIA#bSEM*$~+w#bDIMIDIA,!SIL
IQUA#bDENARIUS#bQUI+%SESTERT,!DUPOND+!/m#bCENTU	R+ ASCIAw.a[Qw.wOsSaqg>&#~*3dPLUMED]/dTATTOO+!CA
PTIVEd<$dzod]:dGAUNTLETdTIARAd/gd;%du1d<IdMANACLESdMa CKdtJd~'?d~!Ed~!]~*XdDOLIUMdCOMBdSLINGdCOLUMN
dBEEHIVEdu6d]ZdHIDEdBULLS`Vd;bds3d~$*d~#rdTUNNYd:Sd~*Xxudz6dPAPYRUSdsydLILYdq#:,d~$`dGRATERdSTRAINER
d%:#dzUBANDd<Qp@v`am;)2R :(cBHc@jc=6c]mczGc|]cwnc^Vc^tcric`/cm=cntcn?coicyPcq'c_bcs'ct2cw2cy0$Bg [
ec| a;[| P2c=6] UUUK LDc,np :(p p>cD^!tqcSH2k C-18cyPcoic| cntcTT2cq'cv=+2R Ul ^tcK2cNDcywc
@jcG2cvIcST2coEc^ cC-39cy0L 2ct%cmecMB2!cLD2c>e8 3a<g?<x1mYc&~I;dyIdx)d@Rd@%dufdtod>zdoa	+k yL
	+p!d@U'aK!ua]fdtm]fd>v]fdo_]fapQ^P+om _;d=Rd>ddz(d|gd].dwwd+ok)?K$n= u&d_~+ot'EKSdqpd_Kd>pdERS
d;td^ dywdESScp)pXd@6dwad@%c!|8d~)Dy*d~,Xy*a[I!AHSAcBAIRKANcGIBAcDAGScAIHVUScQAIRTHRAcIUJAcHAGLcTHIU
THcEIScKUSMAcLAGUScMANNAcNAUTHScJERcURUScPa%oacRAIDAcSAUILcTEIWScWINJAcFAIHUcIGGWSc~%pcOTHALc	$6!q`
!/Bd;AdGAId~#ld>ddZHOIdD&!|edDZITAd]mdKOKEdLEIdMENOEd~) dVOOIdPEEIdREIduOdw>dyPdCHERYdSH> SHC(!YR
Yd|Bdp>dpZ+s[ TSIUdVERd|@d|Ad|5d]y+sV!na<Q	!e!e~#le|ee~) euOayX!ALPAc:dcGAMLAc_Fc=Zc]Ocznc|lcHOTA
+Y4 ^zcu5c`=cn#cDHALcp,c|zcSAMKAc/&cr]c~+^cQOPAcRASHAcTHANNAc[/cxV!_v vHbzu>,apQqb#	JO$^ud_~d@kd[Y
d|!d;Kd^Xd^edw3dy9d=7d=id>Rdwpdq(d:)d?idnwdp%	J7%|,dy|dz3ds(dt)d`0dt3d|^*FI [fdAURAMAZDAA+(-2-(HA
dXSHAAYATHIYAdDAHYAAUSH*'-2dBAGAdBUUMISHczu>,cp(	*s 	*[ ]fa=c'!m#]me>de,%e/#ep>epZdu>4/:$dq!dzzd|9
d[edqRd:SdwXd=Td;wd^_d_9d~$|d>pdz+d?Pdwxd?Jd|hd?Kd|pd?E	*f&4dpLd?Ub%	!E8	!E~au$!PEEPc~-ocKICKc?vcTHI
GHcu|cSUREc~!scYEAcHUNGcBIBcDEADcGAGcVOWcTHEYc~/^cmqcJUDGEcWOEcHA-HAcLOLLcMIMEcIFc~$0c/ocADOcpVc~/ c
psc/#cROARcp,c>kcAGEc]qcyjcOAKcOOZEcpMcAWEcAREcpec/'c?HcARRAYc>gc~%wcYEWapm!/1c:)+B9 |!c_FcDEELcs(c
t3cSHIINc=gc~!bc@kc?icrl+@  ANcM> NUUNczVc[fc|,c)E>).ic>ocpZ	W);apl'!,%d/%d/&d/#d~!Id;kd~$2d>dd~$
8d[fd~%t	0Q!~$3d`-d`0dm>dnwdp>d~)edq(d~$4dt3)DB ~$5dy'd~$6dy+d=gdyPdzHd_Fd[.d|^d|mb%	!=0	!=~a?#!,%c
:Pc;ec;t#DF =hc>tc>dc?tc[#c[<c].c]mc^^c_;c`HcLLE#DC nwcodcp>cqMcrpcs:c~+TctTcu&#EL yPcz(c|$c|*
#E> [1cGHAMMAc_Ka;c//!ALTd:cd[7d~#Fd>ldZARLd~$QdZHILdTASd;kdYOWDd|mdIRBdtrd~'(dINYAdXEYNdDYANd;XdJH
OXdKARdLYITdHEYTdQAYdAORdCHOYd;~dCYAYd~(1drodNOWCdDZ2 SHAKdJAYNdpVdT2 FAMdDZM !mdqUdGHEYSds6dSEYK
dVEYZdTIWRd~,+dIWNz Wd~!bdYAYDdr'dKIWcCIT$e=!z9'!,%d:Od:Pd;ed;td=Rd=hd>td>dd?td@k!lD ]md~&%d^^d^u
d`0d`xdmpdo7dod	7=!rjds:dtTdu&dwTdwwdyPdz(d|$d|*d|gb%	!2%	!2~a`m,%#AB001*dAB013&!6 ( 20($1F'#M
'!2&#F'#4#3&#-#4&!6!dA028B.!9!( 34&!7$( 44'( 53(( 65F#69	!? 73($6&( 8@!100-10
2dAB118& 20dA120B,!2S!131A'#BdA131C- 64& 71& 80&!a!91d,o'd,wdA309B&!Cd,x!dA313A&!B&!Cd
,|YdA400-VAS2d.X%d._% e d.g d~  )dA534(dA545% 7*dA559dA563#' 8: 91 ' 4!' 8dA600$
' 6% 80dA626T 634% 7R 640% 2K!483!51-dA701,%' 2:(' 3=6' 4>d' 5?h' 6[e' 7^V' 8^t' 9
`/'!-2 L2*#3 L3*#4 L4*#6 Ls 10zG' 1| ' 2|*' 3pT' 4 ABB) 5 (#7 DDdA726 EYYYdA732^^dA800'a
nD!%'.icvwxz<Pd,G% %.wd':(,O) >_=zf$sM]Ug=&d=f=z,O1#g/Dw?dsQ>d,N|$?|=z,Nb '@j,O& ''#[e$v`d'[e
,Nr ,M3%,J^&#8P ''##;V%d`be!kP!|*f> p>t!pEd<DpTdridy@,N[ i/DL!s'$w?f@2d's',Kx$y&	#B#dwg=
z,NE#%Go d'|*c,Lz+c:l<?,a30_!c%t2$=&a=3&	5Z*^Xc^ic^uc_;c_Uc_kc_~*2x)*2t,*2n'q(cqMcqvcr/cr]cs
(cs:csTcsoct)ct3*2p(3cwTcx<cxVcy9*26'|!c|$c|^c|xa^'/^!/2d:ed[8d=?d].dzVd|fd]?dwkd|Od_*d`@dn#dp,dt>
d:&dqMdt6drudsKdu5dwQctY#	>>$x3	>A!pX	U& wax0aq4!/2c:ec[8c=?+hI!fc]?cwkc|Oc_*c`@+|2,qMct6cru+|(!Q
b`Q@;bsd@;	Y+,	X| any!@*/2c/2c@*:e	!;%@*].	!@+@*|Oc|Oc@*_*c_*c@*`@c`@c@*n#	!T9@*u5	!Y 	!O)bCRUCIFORM
p(@Ubp(	!`#cpX]fa],	#u%DALETH-RESH	!_!~/T	$#-	!F!~ g	!G$	!?'	!&)qt!ALFc:ccGAMLcDELTc].czQcZAIc~%U
	F-%LAMD	!%!SEMKc/&cqMc~+^crscROSHcu5cwO	!, 	!)%	#U bzutham<!,%c:(	PP!>dcyzc]mc|*c^t	PJ%p>cs'cv=cw2c
yPc?hcrict	PJ&m:coic;IbxzmYan(]E!v(&)bF :)dBA-2dq(	<R!~(ldo7d~(zds(d~+%d`0d_Fd]Bdt3d~+]dtTd^udrjdw
3d~-=dwTd~-IdxVd=7cw.VIDJd% -2b=*	!90	!4%o7ds(	!((/`t3	!)(wT~$@X?'yGdpX[mcm!RMTdIMNcp(	Q$5d	Q!/
	PxF(5Z dyLx0dx3x0d@U	[h!duax0dtmx0d>vx0do_	+)!dyIM )H R	`B#ufM oM zM H pX]fO L'!x3'!@U'#
6'!ua]Y!m'!>v'!o_' c@XpXTWELFTHdyLyGdx3yGd@U% 6yGduayGdtmyGd>vyGdo_yGdwayGa_J!#9X&z<s'	w< c`Z
mYb#>Csj:[+5( )aF&*w(##@?a|^c[fc_ccTTTHAc~.5cVHAb#:B.ncCAUDAc>?:[bz7*F4(*F%!+2l'[mbr`>?c%<6c
# p:BcMANGALAMcm*#/L#`napQv)/[!].e`@e]?en#eruezVeu5esKe:eewQetGe_*ep,eKHETHet6et>e?te/1e~ geDHADHE
e[8e=?eGHAYNewke~/T: LR |OeTHAWeTa dp(pXe@%dp+^-bor/[!]9e`<e[iem~ermezVeES-2esCe:VewZ. 1e^zeooe_
Get51 3e?xe/1e/&e=8eGEEMe==e[/ew=e|`ewte|:ewye|_	!7 waeyIamT	/D!~!)c[8cGHIMEL	2G$b#yUb!|fcZHAYINcJ
&#-!	/_(XAPHc~&Zc`@cDHAMEDHcT($n#	1A%AZ!qMc?t	0$!XOPHcQHOPH	3-!SSHINcwQb.lmY.nd:[	0B.br`vKc@;c>C
>?zl>?c'#dcyL>Ac`l@)a/~#H@ /QcAAOc/Bc~ *c.wc~ 4#H; p>cpZ#Hb'_;c|$c~/*cXVEc[#c[-c[1#mx 	Hy =Rc=h
cy2	#3!:Pc:i$:G YEcNGVE#n, NNEcmpcHMEcYYEc|8cz(cs:c`H%*=!&c|ocSHYEcSSHEc].b.lmYaxK%IG'%.*`C/)b
%Ie&byL~+J; sj;!sjpw4!r`a^4qD	8p^	/~)	8o)bq.	!'+~.p	!(.~(@	!) 	!& |?arX	!!6z=tYmYcy@'!@U>A$<t
f>?	!64apQy>!pj,%d|=,%e.wdpj]md|=]me>ddpjp>epEd|=pEdpj.jd|=.jdpj~ 2d|=& pj/ d|=/ 6!56!5L tL tdp
jAEDe?ed|=?edpj:$d|=:$N!9N!9,!6,!6, )dd|=& pj/,d|=/,g!LeELTe?+e/Be.zd|=.zdpj?6| 6* /* /* 
9* 9e/E- 4d|=AENG, ;ep]e]pe>md|=>mdpj/Xd|=/Xdpj^Fd|=^Fdpjpdd|=pd> Z> ZdpjAERe/meAESe/o5 oq Kd
|=?KI u4 udpj~ 8d|=~ 8j oeBASHb]h'!,%e.ie>le~ Ee>me?/e~$-e~$.e/De>de<C>de>oe>pe~$= 1e>s)e| ~$9e
>|e/*e~.Se?1 ;e?+e?.e?9	[Y eoZpEet+pEe~)ce?;e~$=e?Eeu>?Ee?Je~$Ke?Me?6e~$Me>n)fo oZyWet+yWe?Se?ee~$
Re~$A#eyuc%	# q	# ~p(	i4&	*F$]$su!,%	;[!w3dy1d^Xd;Kd[fd_Fd?id=7d=Kds(dt&d|^	XT *!E 	Xx$zHd~&_zHd|,
) |,doFdp3dy|cz@!2Y(cmYSAKINdnwKHONNAc#HARBAHAYdTAHALAdTAN% SSI#2[;t-*]c9! Qb	8=!drz(SX!a|E!E
LIF%9X qpcwwctTc<4cCHIMcCH& ]Bc|!c==c|acs(csRc|^c^XcuWcu5,@j!3c|gc~$QcXHEYNc?icy|d/<@O,@H KHAFc@
pc`<,#d yaczVcq!c?UcHAYc|Rc?Mb<Q[qmYcmBmYb~%umYb!`<$>?.nc|R$<:.napQv !/2d@*	/t @*	/y ].d@*	2&&	2#+@
*p,f$z.w?	2.!/<	23$@*t6<$RESH-AYIN-	Fe 	0L d@*wQB#	AS,	AG%pX]fc	$w c`ff(av 	Gb$	I7'	GQ'	Hw+	!O$
	GW cFETHc~'8b^*u5b<Q)U=&+t9&=+.nd:[c]U(#m#]U:[csK:[cv`	9$!	9 )yLz.:Gf$>Ac<6$>?cyL<8. [m0!apQyy
	3w!GIMEL-HETH	$|!@*	% )	3y'	5y$d~'8c<Q+x( d	!r f:[cr`:BdyL:Ge>Ad@U>Aa<)!/2c%	Mx-CURLED	$K<sK	L:/
	K!'?*	N|B	Nv8fZAYIN-YODHa;+#+[-#^fcyl#d`;+g/+#dY~cpQwH`yet&eok#SA BHATTIPROLU#dl6+gI'z7#db!
	DC >C>?c`l	DD m*!/!Wdx0+7#<pQwHz7b!( u>>dfp>bz@#/%gp><#`xbp(^la^~+kT5	%>P~#Kc=PcsR	%EE+hK;
+kA+p'b.l#bENUMERATION#bp(#btYmYb>C' 	%>#+96!@ .nav%v#!~+`dw=dBAHdCAHdDAHd~$ud~(.dNGAHdLAHdo!dy~
dPAHd|0dRAHd[id~&GdJAHdNYAHd/#dEEHd]~dyYdpJd>sd~(+	42<;l	%'&.i#[Y$^wc~&Vc@mc~%0coGc;Lc~!kc~&4cJHAAc
~)Yc~.0cy6c~#Jc~#McNNAAcw4cwqc~#8cDG nxcq)c~*@c:*cB2 m?cYYAAc|-cs)c`1czIct4c[g*1' 	$|2dpLbp>mYb/y
mYbz7bMAAi 	(*<	%4',UT!'<	&1!>tb!~.[amF!%8m(	'a'	+|W	'S$	+r!t&b#	'/ 	!` `f~,,au 	)B$	-nM+s~~
#qA9	)Z-/|	0(!pS	%/#	#^ hbtAmY+|` nDmYbEXTRAu>z@mYbSUTRAmY,'p!b#^@;U	&:<EKAMb#uIb]1b(Ac 	*s!tYmZ
 auZ/`!-3S	?3$_Q	%N%yP	%:2,	%=,h	%=8O	%@,N	-l-	2.$	%=*	%,)/Pcz7cp'ctu	-J%uth	-d(.l#b#vpan`	)8'	)5'
	#&5O	46B	);-csRbtYmYa_S	1G-	$ZE	(z,Oct&	![*	$a<,&k(/P	1P;p'cz7	((;a[K+p:!,!S=,)?,	+T~a<Q:m:[a[K
+sZ<od/%+|a/#~*Zb!z*/Pd>C/P+oD-a<Q[K	3-1c!,%#|o z3dq(aoC	.kW~)	0b,~)[	$?:oR	$B+~(Hc|,	F%!`0c`dcz
H	/ X	>.$p'c/|c@*/PbpSbSIDDHI	++$<Rb@w@)b.l#	.b<>C<Rbr*mYb^6#bt,06#+w8!xN/I	2J<	2J~	2GNu>	$L$u>
	$Q 	A[$	.L!/|bGVANGb.l#bpS	*u<uI	#te	#t~	'8!	#d1u	')%th>?c:BbsJmZ!,oB$tYmY$x|/DyQORNAMENTSg>B<qes
8/D) h>C<qhy <qd>Csjf$s8d$4 e4 ery<qeSEPTUPLE<qe<8/Ds8gyL~$?g@U~$?b!THREE-CIRCLE/<]mcyM' e^ c/<y
Pbz@#( eywan	+cN	FA~	+PI	%6$ARDHACANDRA	9V(#HUVA	((<nF:o$pkbsz:ob>C-#y (#:o$>C=!0!e-!^@:od8#w
+:od9&y@w+R$awB	Ef3	$c~	?/$	$3!	EfA!/`_F	.c?a/$	pA!oFcnwcw3c/<w3$6_&,Z` wp	!^!t3cp$6N 	#/!@kc/<
	#h :gc^cc/<:)b<[#mw`0es(eLIGATINGs(	Cq!	#--: $#M!?b#KILLER,&S@yIb#%tYctYcRULAIbw.z3b!;K	%++`xa>;
	& <	)c~+m%7	)]/	Jp$azN<;'!oGe,%ezee|Te|,e|Me^ eyw!pB /Ee@ke_ke?9e~/EeyTe?5epDey2ep.e=7e/ue/?e;6er
]e~%be~%he~%ke]&e~,heuOe~.fc%	!. 	!.~	KT 	C'RcpSa>)/+!	'P0p>d+o%7+o!B|,d|[! e y|+nl'`xd|^cz@#
*O=$P	$3!/%ep>c#/Pd;Ud[lcz7crNo'#cmw|,c^2s(cmws(c#p'	w| @w@)c	2w#	NZ<o$	1b5	(v-	V~~	(yO/|c	Hy 	IW!a
|bv8!,%cz@#]meyW!x>!Eep>e/%e/yesQ]md`ZmY+t9p+t6&	&J1_|c@*<[mYc#z7d;Ue$pkd;T& /Pdz8c<L!s(c<K!|,es
(e`0ey|c^2]/mYc<E'!mYy,dttd>Cttdm#y,c^2~#qC$*%~,qav+!$V $+~(dpEd/%d/y	$r `/c`ZmY*e 6+zeS+z_#
	&V4_|	@$!b<L!+wY#t3b@*<[#@je^teoEe=6ente:(-UR `/etqet2e, 	46#[&mYb~,qbmYy,c$F| c~*Zb]/mY$nO/Dvt/
Dy ~$[i~$[hb~-NmZ a;Rw,o,+4V-~,,dSHRII& O%!&!A%!AcSPEcSPIcSPOcSPAaqJ<5]-!q(e^ue`0em>e=7e|^ey|e
oFe[fe@ke_Fet3e:)e;Kew3ewpenweqees(e?ie;ke-X;)ySe]ne@*q'f^tfw2fm=fntf`/fzGfoEf|*dslxZm#fdtA[AvV/$@
*f@*3$@*eB!f7%n1xZd: z%dn1O'm-k#i!m-9'g#a:h	=S8	,rG	DV~	Ac5/|	Qr)@wFILLER-1 	8&;	czSb]gyim
YamX$NC#b$Ph^, $Pg/bvf	.c$	.`*	.P$	.M'	.J',%`#,%]&,%Y#	%( 	uA'b#/Pc;Uam_[F!,%d	>-5	5S4^c	0BL|,
	5V4_|d~&@dxo	5^.z<s'	5c$e/yc#/Pdz8dp'd;T	5l!REPHAcRA-KARA	5M<[`	#c/	R<'!_| 	#&!	8H!*qH#	#| 	#S$
	$% 	#x!`x	$. 	$%#F	#r![fds(dt3	8-/oe/%epZ	#G#	=,!S	#3<mK$O<#$O3#$OE#$O<#*lB,bANGKA*lE)bPASSIM
BANG*lE!`r!YHAawH@XpX	J& HUNDRED-AND-TWENTIETHd~)ldEIGH.#ugd~$gdx+cx3~$7dSIXTY-FOURTHS,HI 4 EENT
H-1 dwed>xN .<dudcpX@#drzdHALF@ cx3r|cDOWNSCALING?mKIIZHb#NELcCEVITUcAAZHAAKKUcUZH(!MUUV,%KURUN
IcPAT<%K3$KAACUcPANAMcr;cVARAAKANcPAARAMcKUZHIcVELIbWET~#-#b>Q'!LAND#bt:q5#b~-t<o#cp(#b=)#b/DpD#b
SPENT< p#b^(~*`#bSTARTING@`#b#MUTHALIYAcVAKAIYARAAbr`	=< a=##,%dxJ,%e:1e@uwfe[fe]|e`4[aenget8c,nc.j
dxJ/pe>W[ae@qI([ae^$e`3eu,eyPr-$#d[ac.kdxJ:5L#mpr-?.etsewAc.tc/*dxJ?Geu8r-[;c/,dxJ/,e=~e[;z ^xe_
Ueu&eyvcALANc/2c/@dxJu&c/Bdpw/Bdx3xJdr-n~pb/B( fv9c/LcAPINc~ SdxJ`$cARKABcASAL2c/od~/Xwfd~&Ewfg oy
;pwy;&#q7f3 h<w/op$$c/pc/qc:)c:1cBAG3c:3c:4dpw:4c:5c:BcBARA2c:j	$W @xe]|[ac;6dpw;6.jfydd<w;6c;?
2 ?c;AcBUR2c=7c=9d_]W r-m`f/@f:5f:jf@kg1![5f[9f[[f[ff^G4 0f_ f`0fm0gr-~(4fm7fo7fq7r-q7fuGfwAfyRr
-[9fyvcDAMc~#Bc~#C c=ic~#ac=|	$W =~c> d_1yP[a>'c# Rdpw>Rd[adu-c>SdxJ?LcDUB2c>TcDUGUDcDUHc>Vc>Wd[ae
[acDUN4cDUR2c>ddxJq7d dp,pwp,c>ed	#H [fr-=7e@xen.et9eu&eyPcEDINcEGIRc? c?.dxJ@ufwfempd<w?.dpb?.dv9c
~$Fc?Gc?Lc?fr!fr-`;hxJ`;e/Be:1e>W[ag[ae[ff[a	(: _1fv9e` e`0e`;L!`eem0eyReyUc@kd[ac@l	!h!=7r-[fg[fg
]|e.kwfr-w6e/Be/oe/pr-@qe:1e:Br-s(e;Af(!=7e=ie=|xJu&e>Se? fr-`0e?.fxJ@uwfe%#xe[5e[6fr-,%e[9r-vce[f
r-m0r-?Le[kW#]Cr-`ee]c	*E!Jr-]br-/oe_ e_1e_VH ;e` r-/Be`0	*D#n.ep,fpwp,eq(et9etDeu&fr-y=eu0evrewAe
yPeyUfr->Rdpw@lc@nd<w@nc@o0 o@xpw@xc@qd@o0(GALAMcGAMc@tc@udwfN u[ uc@!R3cGASHANc[*	*a [5dxJ>dey
Pd<w[5c[6dpw[6- 6cGIDIMc[9d[ac[:	%3!]|	$: ]|em0/!q(cGISALc[;X ;dxJ:1ewAdwfc[Y3 Yc[ZdxJ_ fxJ]|[ae
p,et9r-y;~![~$`$e`$dpw[[m4c~%Bc[_	)H [bc~%CcGURUN&!SHc[fdwf`!kc]CdxJ/oe/pe:1e>'e@oe_Yep,	(b!]bc]
cC Be[ke_1e`qeyUcHUL2c]md,%c]oc]xdpw]x;Afv9c~&#c]|d~#adsT8 |u7pwu7yUpwyUd[ac~&'d	'9 cIL2c^!dxJwAd<
w^!dpb^!dv9c^$c^(c^Gc^Jc^u	-Q .tfr-` 	!s!:5e:Be:je?Ge?Le@k	1#$@xfr-ts	(, 5e[9e[;r-tDf<w[;e[Ye~%Ce]|e
^!e_ e_Ue_V	*#!mpfr->Rg[5gwTen.fr-p/eo7ep,eqvet)et3etDetreu&eu0euCe~,6e~,vewLeyP	*f eycxJq(eyve|uc^v
d<w^vc~&Dc~&F#dpw^yc_ d	&- c_#dxJ:1d<w_#cKAM2% 4c_1d`3xJyPpw(#dpw_13+c~&Qc_Ua!	)E c_Vc_YcKISAL
& Hc_]Y ]c_~dpw]CxJ/p_~*%c`  dz%@OcKU7c`!	%V uc`$dpb`$c`%cKWU318c`0c`3	-w 	-'$@xg`;e/,	-  ~/Xwfe
:1e:je~#Be?.e@ke@xe[[fr-[[e[fe[ke]CxJp,	,7!!fj!m0e_Ue_Ye` e`4 ]Cr-,%e`3e`qem0em6empf	,A geo7eu&r-v
r	5a!r-?GhwfeuDfr-uDevrew:ewAewTh r-vcr-nweyPf0 g	6k eyRr-/oeyUeyvdv9c`4dxJu&f| d[aepw`4[au&cLAHS
HUc`;dxJ`;c`<( $fr-t)c`ecLILcLIMMU2c`qcm0dxJ:1cm1	7> :1e?Lf	/O#]C= e^!e~&F f	/! Ue`0*!`3	.s#o7ep
%euG7!~,9r-;6ey;dwfd<wm1dpbm1dv9du-cm2cm4dpwm46 43!5cm6cm76 7f	.k!m>	*Y [acMA2c~(.c~(2cm`c~(4cmp
cn)cn.cn:cn]dpwn]cn_M!UNSUBcMURGU2cng	+# `$e|^G gf	-d nwd<wngcnh	'&$ie=ic nwc~(mcn~d^@dxJuCwfdpbn
~cNAGARc~(q~)Rdc~(rco7_!eyUdu-coSdxJ>dcNI2co[d	3-#xr-) co^	-| /o	$Y [[emp<#	+K 	29 ,%/Bg/ohD 
	&P$vcNISAGcp%c~)Mcp,d`4xJ@xfm`ft9gpwp,1 t9fyv	2) p,d<wp,f`4pw`4cp/d.kxJ/qf:jf>Tf[[f]|[af^xf`0fo7f~
,:fyRd_]xJ:jgyPcq(cq*cq5cq7c~*=cqv	.^!je:je;6	Pg!]o	-) d<wqvcr&dxJ_#eyUe|^dpbr&cs(cRABcsT!hA!8~)Rd
m#>Re>Se[fe_ e`$em7en.	2M eu0ew6eyRe~.Keyaeyqeyvdpwt8d[act9d`3xJ/pcSANGA2ctDctrcts	@V$[;eo7euDey=
	*9#c~+ycSHAB6ct~cu&d]bdpwu&	5f'fw6pww6-#cSHEG9& Ncu,( SH2'#LAMcu0	!4 ^!cu3+#:4e;?e> 	>G f[ae`%
em6en_etj INIGcu7	%X u7;Apw;Acu8cuCdpw^@uCcuDcSHUBURcuGd[ac~,6cuLO LuDc~,9c~,:cvcdpwvccSUD$ 2c~,v
cvrcSUMASHcvzcSUR9cw3d/sdxJ]Cen.o w6dpww6oSpwoS>'pw>'dv9cw:dxJ:je[[eu&euCey;eyUcwAcwLcwTZ x<dwfcxE
cxM	+- pwxMf	95(y9cy;c~.7cy<cy=dpwy=|^pw|^cyPd[[dyPyP6 Pq(pwq(W#fvzpwvzfyPsQpw& cyRc~.KcyUd`%	2G 
n.	E!&j[a	@/ e< cUDUGcyadxJ	-p!=7etseyPcUMBINcycdxJ_1eq(cydd[acyqd<wyqdu-cyr	@-$gnwe/,e[fep,eyRfr-/
og:jcUR4cURI$ 3cy	'b!/qe:Be>V	6x)e[Ye[f	6[!^Je_Uem7en:eq(eu&euLey9eyPr-[[eyUeytcytdxJyPcyvy#_~e`$e
wAcUSHX% 2% UMXcUTUKIc~.ZdxJ_1cUZUc|^dwfdv9xJ`$cZAGcZAMXcZE2c|udpw|ucZI3c~/W	FY cZIGc~/Yc|zc||dxJ,
%cZUBURcZUMc~&H?!c.jxJp,c.k>!/@xJKUGc=9_]xJyRr-m`cDAG3c>'r-uCc>SxJu&c?fxJ[[eu&c@lxJ/Br-_ r-,%e/pcGE
22cGIGcHUSHc^uxJ/LeASH3e[;e[[e	7, em7eq(eSHU	$4 rc`3xJ[5cm1u-xJ:1dxJ?Lr-`;euCc~(CcnhxJ|^cNA4co]cNIN9
co^xJ:4e[5c~)Mszoa=Wc~*=/scPIR2ct8	9`!TI2cyaxJmpcyPyPbp+#yL/odx3/od@U% 6/odua/odtm/od>v/odo_C!>'d@
U% 6>'dua>'dtm>'d>v>'do_>!yPd@6yPduayPdtmyPd>vyPdo_yPdpX[)dyL[)dx3[)d@U% 6[)dua[)dtm[)d>v[)do_[)
M +M +M +d@U% 64!t~dx3t~fz%@Od@Ut~d@6t~duat~dtmt~d>vt~do_t~dpXu#dyLu#dx3u#R%u#d@6u#dt~xJ@qr->'
hn:dpX;BdyL;Bdx3;BL%;Bd@64!1 ESH16gESH21d@U2 `kgLIMMU4g`k,%h:(dua8 ASH9dtm+ IMIN3g^$?#>v4 US
SUg% 3do_1 ~&(gIk!3 g~&(,%dyL/owfdx3'!@U'#6'!ua'!pX:?dyL:?dx3:?d@U:?	#%!6*%NIGIDAMIN*$ESHd
pX~$JdyL& pXx&>'dyLx'>'d@6~,D>'6!` ,%:!+$pX>x/oerz/odpQ/rpXuegrzdpXrz[be[m[bd?!] eV e@Re@%d@U
yP	![!)$ua)$tm)$>v)$o_)#br`#pQ/rzu>,dz.<Pd=k<Pe~. eQUADCOLONb#	+H wfeuDc.txJ?Lc:1xJ>'wfc:3xJ.ke
oSe|^c;6pw;6xJ~(mc=7xJwAc=	,w =|xJ]|eyP! c=~xJyUc>TxJ/Le/of/u`Ne> e>Ve?Ge@k	D^ [a	Sy!]C	Ma#e`$e`%fr
-_1eLAK-020e`<fxJ`$em5r-[;em`en)en.eoSeqveu&euG[ac>eE!q7c?G| c?L<w?Lc?fu-xJ/of]C	9J `0f`;fmpfn)fvcd
xJvcc@lxJ:3e=|[ae>T	+y g_1e~$F	B< r-=igo7e[f	Al %r-_1	!_&	Aj fr->eg[5eu3e~/Yc@n	- ![*xJyPc[;xJ[;<w[;
c[Z	-(![[r-8 wAc[fwf[ac]CxJ/opw(#c^uxJ;6e^u	$m!eyqc`3xJ|zpw|zcLAK-003(#21($5(#30c~'# .#62c~'$
pw~'$[a3#8A %3 %1#92(!130(#40#210($9o$225($8(#3($65B$343($72%83*%9q#441c`7dxJ[Ye]|e
q7r-m2g'#eyRr-:)H#50($7(#70$83(#q%92 *$5(!5Z$608c`8	N# 	T`![a	TM!wLewT	J^#tO#36c`9dxJ>Se
@k	;o!oSeq7r-	!f!u,r-_UT(724(#49cm1[axJ/oc 'e[keq7fZ&wAcn.r-~/OcngpwngxJ@kg_ co^xJ=|	)` ~%Be]Ce~
&Qe~'#em`	!B!eyPf	Gq tct8[axJ[fdxJ?.eu&/u`NewAc~+ywfcu&pwu&dr-]ce~(retDcuDr->TxJoSe>exJ/BcuGxJwAcwAr
-t8cy<	D%!x3>'cyr^@dxJyUcysxJ~#CeLAK-668em2c~/Oc	(( r-tDc||xJU wfa=4#CM001 c( 4(( 12B'!3&!5
&!7&!9& 21&!3'( 33U#44&!6l#49>#58&( 66)( 75B'!6&!8.( 94+cCM107#( 12&!r 301 a
>q(,&$cA005Ac,+) 6A&!Bc,,'cA014Ac,4!+ 7Ac,7.cA032Ac,FA!40Ac,N + 6 P) 3Ac,Q c,Sc,T8c~ i
$cB005Ac~ n#cC	$/!002A&!B&!C& 3'cC010A& 1-cDM '' 8A& 92cD027A& 8#cD031A& 2!' 4-!5
+cD046A& 7 ' 8-!9-!50A&!B&!C&!D&!E&!F&!G&!H&!I& 1^#2^!3-#4-!5,cD067A&!B&!C&!D
&!E&!F&!G&!HcE	#G E008A& 9%!+ 10&' 6-!7%!+!8!cE020A& ^#28-!9%cE034A& 6!cF001%!A
& 2+cF013A& 4'cF02:!22)cF03-!32%' 7-!8%!+!9&cF045A& 6%!+!7%!+!8#cF051A&!B&!C& 
2 cG001%' 6A& 7%!+#B& _ G011A& 2(cG020A& X#26-!7)cG03-!37%!+!8E!43A& 4 ' 5-!6
(cH	!D H006A& 7 cI4 $' 5A& 6#' 9- 10%!+!1%!+!2#cK	%j L'  ' 2A& 3#' 6AcL	!% ~'YcM00
1A&!Bc~'Z , 3Ac~']&cM010, d8!12A&!B&!C&!D&!E&!F&!G&!Hc~'f!, 5c i* 6* j* 7* k$cM
022, p , 4, r#, 8, ve!31, yD!33A&!Bc~'|&cM040Ac~(&#cN0011cN018A&!B& 9&cN025A& 6'c
Nf & 4%!+!5%!+!6 ' 7-!8$cNL001($5A'!6+( 17/ 	)= NUF )( 10A'!1&#-#2&(!8/#9#
( 22AcO001%!+!2#' 5-!6%!+#B&!C&!D&!E&!F& 7V!10A&!B&!C& 1(' 99 20%!+!1Q!24-!5
%!+!68#P!30%!+!1!' 3-!4-#6A&!B&!C&!D& 7-cO050A&!B& 1cP00%#A& 2 ' 3-!4'cQ001&
cR'  ' 2A& 3%!+#B& 4E!10A& 1%' 6-!7,cS`#S`!S	)> S006-!7'cS014A&!B& 5!' 73!8(cS
026A&!B& 73!35A& 6*cT001!' 3A& 4#' 7-!8%!+!9%!+ 10 ' 1-!2$' 6-!7/cT032A& 3% 
v 	$p U	,I U006A&!B& 70cU023A& 4@!29- 30T!32-!3)cV001%!A&!B&!C&!D&!E&!F&!G&!H&!I
& 2%![!3$' 7A&!BcV	/2 V01~!1~!1~!12%!A&!7!3'cV020A&!B&!C&!D&!E&!F&!G&!H&!I&!J
&!K&!L& 1!' 3p!4$' 8-!9%!+ 30%!+!1%!+!2 ' 3-!4#' 7-!8v!40AcW	&8 W003-!4%' 9
- 10%!+!1#' 4-!5R!17-!8%!+!9^!2E!25cX001#' 4A&!B& 5 ' 63!7-#8AcY001%!+!2&cZ
`  ' 2A&!B&!C&!D& 3%!A&!=!4%!1!5%!+!6)cZ015A&!B&!C&!D&!E&!F&!G&!H&!I& 6%!A
&!B&!C&!D&!E&!F&!G&!HcAA	+m ( 7A'#B'!88cz.^lc]Y^lc^5/uxhvLe;$vLexh?2e;$?2cp~n2c:Ut]c?2t]a
/C(,&)cA010Ac,0/cA026Ac,@,cA039Ac,M	<z 1Ac,O#	<q 1 6A&!Bc,U3cA066A&!B&!Cc,j>cA097A& 8%!
+!9r 100A& 1%!+!2%!+!3C#4A&!B&!C& 5%!A&!7!6J#7A&!B&!J!8!cA110A&!B& 1$' 53!6
)cA12-!2-#3-!36ccA202A&!B& 3$' 73!8 ' 9- 10%' 5-!6%!+!7*cA22R!28GcA26-!685cA28
`!90z!94-!5-#: 300)c,wc,x3cA329Ac./ cA332A&!B&!Cc.1#+ 6A&!B&!Cc.56cA35Y Lz 364Ac.Q
M!68Ac.U!cA371A& 2)cA38-!82% 3s(pesT+!6!4P!86-!7%cA393>v' 4/cA410:Um!mY+!A?2,%1GcA45
0A& 1&' 7-!8Gc.X=a:=!qj~)0n,dGBIEE FONdr;n,~*Rf~*Qdnxn,dSHUEN% Td~-en,dp=6!INDAq(ofdr;' ~*R
gT MAEMBp!dy9mDdNGANGU7!VEUXdMANSUAEd. AENGAMdSEUNYAMdNTOQPENdKEUKEUTNDAdNKINDIdw!dNGKUENZEUMdLA
PAQd```&dp!MFAAdMAEKEUPdPASHAEdGHEUAERAEdPAM2!nE~)+dNZUNn+dyP|U~(oG$&#dp!~)JdSISAdMGBA' EUNJOMND
EUQdMOOMPUQdKAFAdq(`Mdo.`MdPETdMAEMKPENdNIKAd~*mdTUAEPdL&!SONJAMdTEUTEUWENO NYId_BdNDAANGGEUAETdKU
O	!, EUTdSHUMdLOMMAEdFIRIdROMdKPOQdSOQdmUPIEEF IRAEdp!du=p ~/Fd~)^MONGKt QdPAA@ ~)BdUNKNOWNdoJd~(
,d~)<d~(6dp7d~-Rdv&d~*!d~)HdmCdp8dKAQdo~dz+dm0do;d~(tdMBAQcqk	&f!y9MAEM	&B S% tky9d~'Jp$dmfMAELEEdK
IEEMdYEURAEdMB	!U KAMdPEESHIdYAFU`Md`<p p4dNTIEE SHEUOQdo6NJAAdGHEU	%V Md~*Tdy9~)Id~,$NJAQdS:!QTUdn
,~-SdmkMBAAKETdp8p$dKEUPUQe$	'W YEUXdLAANAEdPARUMdVEUMdNGKINDI~(edNGGEUmndWUAETdSAKEUAEdTAAMdMEUQd~
)-e`CdMFIYAQd~,udMBEURIdMONTIEENdNYAEMAEdPUNGW n+u ETdFEUXdMBUOQd?vdK	#A m>NJ* NAeNJUQAd``d~))dNS
ENdm>dKIQdoQcql~)0mDdp=d~/FdWANGKj oJdNDa REEdNGKAQdGHA	%% EEKEETdGBAYIdNYIR MKPARAQ~(FdNTUmkd~(8d
PIR	## DOMBUdmgCABBAGE-Tu KEU	$x Pz P0 KAQd|TMUOMAEd	+& MBUEdNSH NdmkdYEUQd	!3 d^wdtldNDIDAdTA
	+5 ~)Ad~-eYUEdSUAETdNGG] p4dVEUXdNANSANAQdm>Kv RId~)JF!ONd`BdMB	#  	+@!QdNTEUNGBA	*X!XL!Md~$ldN
DEUTdNSAdNSHAQdBUNGdVx Pb BERAEdt)docd`<dTI	+R NSUOToQdNJEEEEd_BdoMd~(,dMB	%o 0d`&d~)<doQdWUPdNGGU
EETdNSOMdNTENd`#~)Bj Nd~(xdm>~)Id|-do0dSHUEQdSETFONdmjdmDd~(6dKEUS	'% & ~&RdmgPICKETd~/Hd~)=d~(Kd~
(bd~,'d_?~'0eFATIGUEdNGAQd~(tdLIQd~*OdqUdwicqmMBUOd~.mdofdn,dNJIEEdL% NJ	$+ HE` GAAMAEdp4dWUAENdNG
KUNdu') AP	(V TMEUNdTEUT	*n e APd~,ud_BdYAEMd KUOMd~+gdMFJ ND	1m LEERIdn+dS	.$ |<dNJ	)Q KEUOT MB
s!GKEURIdy9d~%0/ YEEdFEUF	/S o2dMGBOFUMdLE	%c DONdMONI9 EUNdPUUTd	.!!MFOdm7dNSIEEPdmgdKWAET	/$%
	$l &RdRAEMdTEEEEd	/m$MF( ^#TdKEUPd~*PdPEUT7 YUE	+E#MFIY!GWAENdYUOMdq7d~/Gd~(xdp$dSj ~&uD 	(F 
KR ~.8d~(FdKUQdNSUMdTEU	2= J	)c APdL	.( Gv p 	*- %2d_~dsFpQdw9d~-ldp8dsid~'4dm|dm=dw!dn]du2d~,%d`.
dp%duCdp#dqRdoSdu=dPUQd~(edm)dsFn^dx<d~)LdmgtmdSAQd?jcqno0dTOONd~(8d`BdVOMdL0 q)d~,UdRAQdNSHUOPdNDU
Ndr_dwGd~)/dKPEUXd~/%dtZd~)+d~*!dxfd`#d~'Jd~)Hd~)3dmCdNGK	$! Om#EdRIMGBAd~)=dPEEMdt4dNGGURAEd~(GdGH
P#K	22!);dmUd~'KF 	%x DIQdTAENp$dtkdPUMdo/SOFTNESS	-M!SHAEp4dYIEEs!NdTUAEdYE& r/dTUMAEdKEUA	.* N
d~-SdV0!WEUXd`2dr]dTA	0C AN NGEUR	)i%QdMGBENdmidNZAQdNKOMdGBETdy<dKUETd~//dp8CLEAVERd|JdMFEUQdNDIA
QdPIEEQdYUEQ	)4 	.T GB	#j!UPd_Bd~(+- AAMIdGHETd?idNTUMdPEUTdY	';!	:% 8:fdNZUQdP	&- KdFUETd~(o	-3 %2
d@f]mdMVIdPUAQz UMd`&dPIETdp!dYE	1#$Pdq(~*7d@f;Od@Hdoed,%	(/ >d]mdLAQdq(PLURALdw4dTAQdo/~(k]`d~,'dY
	#2 UAEdYUAENd|QSWIMMINGe<ld|UdYUNd~&SdqddoeEPOCHd~*ldz|d?v	99!n.dsOds.j#TdoFdu9du=d@fREMEDYdnwdqvd
m)d_kdn%dm>d~(1dTEUd_UdnEdwadFAQdGHOMcqo^udyPd_~d>ods?dw9dp8d`0dsid~+@dm|dw4do/doc	*R!u2duGdtld`.d_B
d~)Ndp%d~)@d|QduCd|,do~dqddp#dz|dqRdt)doSdsOd_?d~)1doHdu9dr_d@HdzHd`e	!t!~(7dsFdm>dnAdmgdwid_td~+ddV
UEQanZ!w3coNc|Mcn9c:)c=7c,%cqqc~&WcHAOcDAIc<0cKEAAEcpPcmCco]cq(.QC socu/cTHEAc>fczHc>dc_kc~'(c`0cHA
IcsTcTEK!ZO:![.!awJ!OZcOCcpdcq#c~ hc.oc/Xc~ ecVZcVCcVQcVXc?ec>mcEQc?VcIZc]pc^Fc~&2cUZcyTcUQcUXcAWZ
cAWCcAWQc~ dcUIZcUICcUIQcUIXc@*oEcm#~.Mcu>~.NdE!ECc~.NcUEQc: UIUZ% C% Q% XcMZc~(9cMQcMXc![e&t3
&'O q(cp3![X$nw,]g ~%mcw3,06 oRctrc;Kcy'c[.cHTTAcwp&06 =gc;kc|^	$L;a:Iy~!ENNId^udtTd?idmhd~/:d~
$udDHIIdKPAHd^idHWAHdzHd|xd[!d>4d;edUWUdxVd:)dzCdYEINdq(dWADDAd,%,.T#-:+ ]mc<Q.UU$n0xZdLOW-MIDxZd
HIGH-LOWxZc@gvVaq-]Mz@KEEBdKEEVdKIBdKIVdKAUB% VdK) ( C!: I: D OOB% 4 WB% N AB% VdK=!s 
AB% Vd~&DdK: M WV AB% Vc<[VAUdNTSAUdLAUd]-dN( R6 KAUdQHAUdYAUdH7 MAUdCH< &!HNAUdPLHd!& 
0 /ydXG AUcmY<4TUBeu|eKESeKHAVeSUAMeHOMeTAUMc#z?T-!SHAB CEEBd<4CHEEMd: IABeF- |)NTXIVesSeTOVeFA
IBdz?SEEVd~(=SUA/ NRUAd]o~/-dXAUSd<4TSOVst!vh>bd]gdwax1dn8d]fn8dwaBILLIONSdTR*$c#z?LUBdXYOOd]LdTH
IRD-STAGE]LdZWJ THAJdHNUBdNQIGdXIABdNTUJd/zdTXHEEJ C	# !TSEEBdwOdLOSdMUSd<4HAIS LUS~)K~)KeCUAM TSHOO
Je~.EfCHWVePUB DAWBeNRES TOSc<=#TS~ eYEEGeLISeLAUJeXYY _peHAWJeMUASeTHOJeTSABePHABeK% HAMeVAJeFAJ
e|1eTSWBeKWMeVWJamv'!m=dt20!3 ~ ad|]d~&m,() @jd?hd]md^td,%d^Vd>d0#@ yPd|Td`/drid]ad~)Xd| d=6dp
&24 #$f |*b%!m=	!+~	04 *S]Tb=wpX/<@OcyL'!x3' &`##w.AIVAb?WpJan/!q(c:)c+q(cr(#8D!/`m>&g5 VFA
	.o!+y1dw3cy1c=K#9$ +ojc/`, jcNNHAc`0cLYAc`dcLHYAcxRcDLHAcT.!D& 'y~ +^ucrjcQGA#:I!/`&lm#[.c[2
cTSSAcDZZA#:X#+c>cc+y+d>ccs@y+!o$ |mcZSHAcy'c>`c+y'#yD ZSAc|~cZ( /`*!YA/ YAczHc/#c]BcBRIcSYIcD
ZYIcwTcy*cRTEb#<[nD:Bb!o(b#~ ^cs@~.gd~ ^#*l$AHHd/Bd/E	0-!zndzGd>d$Fq OEYd]md]nd~%wdIANGd^Bd]yd^ d^
Rd^0dyPdySdUANdU> ywdUEIdUNGd|*d+d.wd~ 4d?Hdt$?Hd?E( Ed/%d>td/ydprdntdoEdUOGdYUIdOGdOERdVWd~&#d>fd
IOx ZbxZsacxhsac.nc:[b!x]&cs@x[ dx_!dxcawK^QmYaNUSHU*!pQ<']UmYc.!KHITAN%tS@)a~.c/<~+0mY;KeNHAY
awKCOMPONENT-001~!,Ga_4!n<x]#dxb do)x[$e, c/`>da]J!/`|8a]<!A-1!cA-WOcI-1#cU-1$cE-2$cO=!K
D ('!0 ( KEcKN 'cKO &cKE-1%cKQ$O-KIcSAB!SI;!SU.#I $cSOW!TC #cTI.#U.#U-TOcTI (cTO_ 
' RAcNA4!NO!' TEcNU !cNEH ' KOcNU $cHO#H	##!HW#HQ#HE.#K 'cMA.!MI'#	!O MC  ' MAcM
	!O YA~!~/+cYF#Y9#RA.!Rc#RU5#E5#C#W]#WI'#<#WOQ!N-MU-M,  	%S zza_4!/`+d|8dzz5 %zedzXdzn
a_4-'dnta>X![ec| cq'cw2c?h$/= :(c=6cyzc@jcs'cq'ntc=6tB ntc^tm=cs't2cwncuq~#_c$ _bcuq^VcHLc`ccRH
$0( ^Vct2cm=ntcnY ^Vm=ct2^Vcm=$>?cnt& ^V$>?e>A^7/D.nct2$>?f:[cm=t2cntt2c^Vt2ct2m$t2o!8!' s!
F![!dnte5!w2es'dq'es'cw2t2ds't2czGcWHczGs'ct2ntdm=c^t:!@js'o#tS ,%cuqq!cp?cp>cAOU$aK ]ycu>]mc
yZc>ocuq>sc~+Q]m+ ocm#]mc|8cyPc?Rc|(cyPntcm#yPF yPcyYcuqyPcOOHcq!cprczHcznczec~.vcWOWco'yP	G=!,%c~
*;/Bd/?cuq?.d/BdpVcz<m=b.|`N]YtWcn0'!sa'!m,z.5!'!]G'!/vtWd`TtWd~-Adw?d>d]Ud]m]U1 ]Uc]G.sdxB.sd
[Ndm#[Nd>?d<6d`ldzRdz.cm,A;d/gb#p>$<tbTHICK!t`b>CmYbr`CHINOOK@gvVau?@P!pzc#W5 INGpzc>GvPcyjvPa|w<Q
mY[Gobt2_ypV`Nd+(y)'!? ;!'$~,d(!mOrE)!'$zF7&t2_R;!+(zF+&	!7%sad+(y)' ?!;!'#	!7 sa
|!)!'$zF7&~ ;!+'	!7!z$t2_yJ%ydvY+ d.#evYdzFA&vYd[GzFdZELOdpVdRAVNOdxDdBORZAYAdUDARKAdPOD
VERTKAdLOMKAdKUPN? KACHKAdZEVOKdSKOBAdRAZSEKAd_xpV`NcxYs4mYMRACHNOfSVETLOfTRE*#cmY~/Qd~#W' OTSE
q!r0e$z.v`d;sePOLNAYAdOBLACHKOd~,V~)GdTOK!DVOE+ IEcATTACHINGz.~)jcmY=,~)jd_xcm.xYs4^-brSnDLEVEL-2
 d>%~$_d_xdstbo@~&sd~-bcPARAKLITcDVAyzCHELNUc~&ccZANOZHEKcvWdt2OCHKOMc~*:do=cvW$	!_ c~!ocPALKAc|cc[
EBORZYy d	#p YdSVETLYd	#p#YczBrWdnYdw&dxwd_erWenYew&exwc>C|ccsQv DERBITSAcKHAMILOc;scr0cui[&xDc~#
W~&ccui_ew&d~&dd_exDd>YrWs o=e_ecusdt2|ddZAKRYTOEdt2_yc_xcstc@4cKOBYLAcZMEYTSAcvNN!e_ye|d]m_ye_y]m
|dd~/Rei!t2ROGOMeDVUMYA ZAPYATYMIP!PODCHASHIEMcPOLKULIZMYcvNo=cv[rWd	&w!TIKHAYAdKRYZHEV+ POLUPOVO
DN. rDdo=dKLYUCHE7'~&ddxDPUT.!>YdDVOECHELNOl(~#~d>Y_e) _ed[T$uX|cd[V($Td[Ve$>C, UerDcmtd	!* Y
	!9#VO+&:,NEPOSTOYANNYcv[TRYASOGLASNAYAd/#S!0(STREL0 cpn	&T#ww&d_	%] cv[_werDe	!q!e[V($Te[Vf$
>C, UfrDeq!KAcKUFISMAcOBLAKOcDUDAcNEMKAcPAUKa;Gnjw.rZdDASEIAdq_dq$>~e>#dz#(#KATHISTIdSYRMATIKIdq=
d~/?=!REMA= ~ N>~d?X>~d~-Jd_Ad/TA SYNEVMAdTHITAd~)h/ad[H/adPSILONdCHAM)!VATHYd^M/ad_@% A/adSAXI
MATAdPARICHONd~,kAPODEXIAdOXEIAI/adVAR*$~ P/adAPOTHEMAd_ddREVMAd~*E/adTINAGMAdANATq IS; +pdw0/aeM
ETA STAVROUd~)~p -TdLEMOId>^dTRIAdwhdKRAT	!] ~ N?Xo<d@e/adIMIFTHORAdy#/adKATAVAy#d~*4d~*kd~&jd~!q/a
dRAPISMAdq</adq=] CHADINd~(sdPETASMAP /7m 7dSTRAGGT TAdGRONTH-$^Mo<d~)ho<dq$o<^#TIdKO	&R 1$O
0%	#(!0'~*4o<d_Ao</Kd_@'!YPSILId/To<d~ QSYNDESMOSo<dYPORROIh%/#ONdELAFR	&)$IdMIKRON^Mdz#f *E
&!ko<dOMALONdANTIKENOMAdLYG	#| =o<dq<J $Lq<dKYL8 K&0%yt EKSTREPTONdw0o<	(A d~!q< PEGER	&5 o<d
XIRON_ddTROMIKOPSIFISY *%	!G!A$/-PARAKALESMAR%4&G(SYNAGC'0&GORG- THETONd~ Xd~$L'!)~o<d~-U
ESOe?Xd~-T~ OdTHES^|	(h S	'F!SMAdENDOFONe /8_7e/Kd~,kd_d/Kd>#/ad_v/ae/7ev  Po<d/Sd>#dTRIPLIdTETRA
) _sd`WENOS~!re>^</eTRION( ESSAR+!IMISEC!d[Ho</KeqB/bf~#]d=x,!_7g/K1!TRIGORGONdA&!IMIDI+#(%
/!~*]~ We/ TERIe- METRIAeMESIe~%7eGO>%N %7dm^~*j]re~ B)$#^/#)#TRITOS)#FONIASewj]rf~'5]re&$*
V]rdISAKIA~-L~%yd~ Q*$?oTETRA]$~(Ye~#bdm^VARYy PROTO-!k#wj]rd~%8nt~ OfDIPLOUNdENARXIS^|@e~.idIM
I	%^ 	,J#ONd@e/aDEYTEROU ICHOUe=qq(f~(seNAOS]re=q=ieukDIAT_ =ie=q_;f|xfoS_7g/Ke~(/<.~#bg~(YdFHTORAu
k<.VASISd@e, SYNAFIeNENANOd<-ZYGOSeKLITONeSPATHId@e]m|F~-OeENARMONIOS ANT	$S d|F~.%d=s~.%eE /S>^>8
e~(Zwh( #c?V( .!~)g>8d|FB=~%&=se|Fd=p/SMIKRIfMEGALIe>#ew|duTw|f~#hf~.$f~-Qe/l/)dDIGRAMMA GGdDIFT
OGGOSprdvRd/cq(e~.ie@ke=ie_;e|xeoSd_Ao<~(Dd_@(!0!_7d_@'#d_7d[H, anjw.uX:Dc>C:Dc@*:DcsP'!=G:Dcu>
:Dc`NsH#csa&!H>Ac==~+nc=7CAPOc+ CODAcsIFIGURE-1!c?~d:[c;.mYcCAESURAcBRACEc;)cONE-LINEvJcTWO+&HRE
8&FOUR,&IV8&SIX+)STRING~$kQ!/(@j<>epp/;f:Ic;I<>c?h2(>PCLEF-1 cnbmqsLc>Cu!d@9c@9yjd>Gco-(#u!
(#rzxZu!e@9cCOMMONxIc=/xIcs d:Ic~*z)#MULTIsLczdsLc[msLcrzsLc>xsLcucsLcx+* gsLcpX]f~.=sLc| oxcr-o
xc<6,!v8oxzce:qcxxoxyjzcf:qe`N(#sa(#>G(#yj2 g:qcnOX%~-~oxA$cq@oxcVOIDoxcox> )Poxc~!yO%;0czd
owc[mowcrzowc>xowcucowcx+* gow	!y#owc<QvOdSPRECHGESANGvOd~-x!c@-(#<QAUGMENTATION>?dFLAG-1$c:U~! 
c?2& :Ux?c?2x?6 ,L6 ,L, *Cc?2& <Q.pdSTACCATOdTENUTO0%ISSIMOdMARCAT(&-N&ACCENT0'LOUREc~ Y
	&/ <QDOITdRIPd~$_dSMEARd:_d>Cxddy xdcRINFORZANDOcSUBITOc|]cPIANOcMEZZOcFORTEcCRESCEF DE,'[Jowuneo
luncTRcy?c^@y?cy?undyjcpkSTROKE-1(d+#	VQ!AUPTSTIMMEcNEBEN,$?2pF+$=Vunc<Q>G;%dyj;%dH	.N CdSNAP PI
ZZICATOcqPmYdyjmYc[m, c~%5	#j $FINGERNAILSc~#<d/5cMAXIMAcm$c~!Lctbzcd:qcn;& tg.#~$o)#m$q]sLd^%sL
O sQ sLcn;* gsLcw`q^=!rUq]g^%gq]~#dd^&2&h~#d!cCROIXc~%<;I<>d?h<>cv8:(cVIRGAcPODATUScCLIVISc~+k
+ MACUSc~-mc~*_d~$^9 '!-mRESUPINUScPES SUBPUNCTISc_W	!( 2pFqxd@*owdRECITATIVEmYdzdowd[mowdrzowvO>
Ggyjd>x,'@9#cSORIcKORONa[Qz;ou~-((dSYMBOL-10.d~-5$b^8<# d~-3&!:&!)#d~--!d~-1$Z%29 ,%32
*&6B'42B'45*&7'a<Q[Qnj~.| Pd~*6a0 `Wamcp)	i#8c	i 8anI@L>ha=y@LHEAVENLY>hc]d>hc~$,]4d]dc>hawl@
L;ic@g<6cMIREDcBARRIERc~&N%cCONTRARIETYcASCENTcpccBRANCHINGpscDEFECTIVENESSpeDISTORTIONcDIVERGENCE
(=F#D c^)cPENETRAG!~+/c<_c]R:,c~.kc~$bcADVAX RELEAS( SIST3!0!^qcCON(Q^!ENDEAVOURcDUTIEScCHAN
GEcDECIS	!a!c:zRES(:h!PACKINGcLEG/ CLOSF#KINSHIPc@ycSTRENGTHcPURITYcFULLD!RESIDENCEc~'0peMODELc~
+:cGO(<?#EN+Y>!cSTOVEcGREAT`!ENLARGEMENTcqIcRITUALcFLIGHTcVAST	$Y WASTINGcCONSTANCYcmqc?OcUNITYcD
IMINISHg!<DnScGUARDED^ c@y^(cMASSb ACCUMULA	$; MBELLY%DOUBTc~.ocSINKM ~&+c~#Yc~#EcDIMM4 EXHAUS
`!SE(?/!STOPPAGEcHAR	!; <TcCLOSUREcFAIL( -%H [!COMPLI]!pVwwVERGE(CT$IEScLABOURINGcFOSTE* a<k
ssyi=w-?w6b?9a]wwFmY	ww)a3#c@6amb:z'0v]hc%pkb^P	!glp1mSb:z^P'%lfhd%pkbtS',%	#X!@j	#O 	#I'
	$7A?h	%%0	$1?tS	$1Y	$1~@Y	'` 	&i'	&f'	$=<	):l>E	!W-l-p>	!QI	)(T@Y	%tZ	)(~B	,Vlpl:z	$Plpkc	.A[
	!g~	0-!f:(f;If=6f>df?hf@jf[ef]mf^Vf^tf`/#w5 p>fq'frifs'ft2fw2fyPfyzfzGf| f|*f|]e%pkbnK	(&[	5E~%>@
]me^Vb:z'0RLMx w.0RL/cnzc%0SBgcqE=tc??w.cx w.c_+w.cqqw.csS* vw.b^P'	#/~	#/~	8* /:e:de@se=Ze??e|l
e?Nex e^Ce_+e`=en]ep%e|&epU-<a r euMewOeyneqqe;~erYepTdnzd%rP@*uMr3qE=td??w.	$K _+w.dqqw.dsS* v
w.btB:z'	#1~	#1~d^P'/:f:df@sf=Zf??f|lf?Nfx f^Cf_+f`=fn]fp%f|&fpUfqvfsSfp fuMfwOfynfqqf;~frYfpTenze%
rP@*uMr3qE=te??w.	$I _+w.eqqw.esSw.e	'O!'=vc%=vc.y*:>EB=tBB<c:z'B^:nKe<auN[x^+b[t% v% ~% z
% s^+b> :ab[t'#xx7ye+ c^+s2_id=%d]Hem,B!~%_Q!n2/!n2.$:aes2_je]Hdyjn2]Hd]Hn2yjdn2<Zfp fE f=
%f]He<u_$) x9 pw^+c^+) n2dn2x7B$x7	!(!vXx7:ae:ax7vXe,!]Hv7x7uJ	!9!+ h<Z	!@!9!) D @Tex7=%f<
7f]Vf]Hcx7:fw#c' <Z^$h:acn2x7]V^+yjc^++ 	#4$	!* e<u'#Zz f=%' V!=%V&=%V 6!<76 g]H9!/Hps
; f^(' e<7' dI!Z]Hf@ gcn2J#Z h<uf	!T(]Hb[y@U@.e:ae]He<Zfv4b[u3 <Zb[x)#:ab[z4%y@6@.v7c]8)$
'#@U:ac]8-'8$6(4$	$W b[v-#fp^b[z,#+ ~+#	!/$]Hgx7uJgolx7cc:fq3FACINGSc]8c: c]8'!x7:ad@Tcv4
^+1 d;ieZ!:ad`tb[uN#i!	!H |~#/cb[vp^ccp^f C#p^E J!8!@TQ$wp^cb[tb[~m.zp^dJ!c%m51!~-q^+d
:fn2sjb[s	(8 ,!t)%z)%s2&`tI&:af<ZE&+ x`t>Ge~+KvXf=,eOTHERS<7dyjcx7ye`tyjb[t'#~'#s' Z!s2_i
d:adTOUCHESx7dx7b[z`tx7@!^+0!)%s)#$ pshB$b[t' G$E$	!x!`tb[t)%z)#c	#H$	#C$<tI!+'xsj>Gb[z
' ^+x7]Un2b[s/ n2x7^+<E#yjds2_id`!sj' ~' L!j$n2e<Zes2_jd^+dx7b[|sj	,H!E#t)%w)#pVb[|+$sf^
(fyeb[vE%z)%sC&b[xn2>Gb[zn2,!yjb[t' .!s2_id	-( b[|	-k!' `td`tdo O!)#wn2	!K#v4%z)%sn2	!^%
U&:ab[u+#<Zg	!, .$psg^(gb[z^+]Hb[x^+	!M z)#2&x7=kg<Zg:a	03 ~!G+!~%_e@T^+vXg:ae]Ue~#/e=+x7^7b[u
] -%x-%yee<6b[v0 ep^	!2!p^e`Cee%b[s/!se^(eb[xx7d]8duJ=ke<Ze:ad@Td	0  en2sjesj`tdyeyL@.dpw'!yex
3@.e@U3!@Us2_jcc]8bxmuXcnbc:fb[L+&v_+&;5+&t*A'|w/(!;`CuXc%uXc`Cnbc%nbctib@=72v;@=/=bnWyj>G`Ce
%dtic>Gtic1 /=`Cf%cuJxVuJtQbnX@+<_bnV'#XuXvX%emye`Ce`Ddzy@<c>CvX*!d/=e2!<tcy vXnT7+:_%dmyd`Cc<h
*$ds|c;u7%;(*%|v*%qO*$bxtt uXd>Cd/=cs~+&tzc/dv2uXe>Cey bnU:!T$d`Dcxn-(:f:!	#+&xn-'bnV	#IRnT
	#K#	#D%c;u	#:;s	#/' +'zbnX=+rz	!P&[n-(~-Z<6%fmyc]ex%m'*$d%>CczR=+>CC f`Cey *$c=+wzvXc=,<tq b
t uXc>Cc/<bnXtzc=+]K@azLc]e)$m')$zR)#T!4$>C)$/==$nXd ;|b!;|`!;|^!;|[!0!>C'!/=7!nXzR=k
qH	!m!bnVf!g%f`Cj#g%>Cf`C>Cf%y f`Cy |#g%uXf`CuXfA%czR[%bs~uX- 	!5 g	!5 g	!%!@>	!%$@>_%fy %y g
	!'$@>	!'1@>	!'&@>	#u >	#s >bnV=+	's%dCOMBINEDc]e%cm'%czRuvd%db!	%5!=bnVtzq>bnX/d<6%uXemyuXe%>Cemy>
CbnV8 ]KzL%uXg< g`CuXg%>CgA g`CF Xzy<6@auXfT!zyT#uXg>C	+` 8uXe<!, <'>]/i%d`CcFASTc~,Kcwcc~+
5c~,;d/=cEVERY OTHERxIcGRADUALb]/cRIMcnXvXdTILTcnVvXcnX=+cnV% T<6b?k>%r>os@TxHfyjpe>GixHb?`vXyjdoAd
>Gb>O?`oA>Gd>GoAdyjoAdoAyjb@MoAc<_czwb?dp^cSQUEEZEDc<Db?_~!5uXdnbb?d[mp^czfp^c[m<DcWIDENINGnTb?_WINK
b?cyjc>Gc~$ab?bv	*[!b?a+'b=,b?a% b~!ub;xPUFFEDcoAc~,tbwc;x]Gdn2dm,b~$+bos	!d!xcWIGGLESb/'~!>pscSUC
KING^(cBLOW%~+S3!) b;.INHALEcEX' bnS<DoAd@Td<_cutdzwdp^c@c)$p^<6d@T.!vezwe~/2ds<*$c_^=#cwc) 
~,tb`pP,xG Xb`om.pwymcympwm.bnS<iczxuXd>Cbxd~,mpsFARcLICKING`pcxL:f`pd~-q^7nSc% ~+5cMOVES AGAINST 
CHEEKc;ia!dD bwYcnTcpVxdenTd`penTcBITE`pbnX~&7bnV& ~(|b[jbEXCITEMENTbuA]ISPINEd0SB!SbWALLPLANE
= ~(`bFLOOR2*uAxH@`WAISTb~-nvXSTRETCHc=,:_bTORSO-V' TWISTINGbym~![!]IJOINTSb`i	+6 	n] LENGTH-1&
b@+bLOC7!-	!X$v,5&	!& 6%`|HEIGHTczhcDEPTHc]/~(|cTORSOcLIMBS DIGITSb&gR(q@b@(~(S$bs|( 'cMODIFIE
&lh )%!?|=z$TRILLdsQ1B3!y@@jb%!sQ1>M!$:]b%!`b%o`$$:]dsQ?4%oQ$/D=!w2$]U,#b!%nV#b%!?K$>C:Bh/D
1@z $=&1RM#=&cv^;I( %'y@^tb%!`/$@2d=f=z-kv#:]/D,!?44#y@s-kt$@2>$wgT%?g(!g!-k+#v`	!s!p>
4#wg>%;I(#t2$=&a<Q[>*?I/*?FO*??/*?9 *?52ap9r^]M!m>ey'eNTAew3e[fenwe|!eNKAe;Ke`0et3e|^eNCAeNT
SAe^ue=7ep3eo|ey|eNTXAe$ ?ies(erje|,eNQAeq(e~/)eNPAe>2eNPLAe[ie~(Rer(e@ket&e,%e.ie]meyP%NP >de>oez
GdTONE-B'#M'#J'#V'#S'#J$Dd#@LqcfTHINGf`|fANIMALfINVERTEBRATEe|(|(d&`[.A~;m!NYAJd<7;Kaxl!q(c:)
!jO ^u(S4#!x~ ;k!y# ^Xc[f$PH ]mc;/]mc^Rc;/^R%/2 ;/>dc?:c;/?:cp>c.wc;/.wc,%b#slxZazM!.ic,%c:)c;
Kc=7c@kc|,cqev nwcq($Xp ?ict3ctr.0R zHcy|c^u$]b s(cm>c_Fc[f%w4 oFcyPcLLHAcy'cxoc~)mcAANGc/Ec^0c
pVc?.c~ *cp3cUENcYIHbxZ~.9cTUPNIc_mcKOINI!o ;NGUN#a?Q&HHYAcHHYU% Ic/ 0!EE& %!Oc[c~%YcHHWI% EE
&!c[cnpd~(gd~+#d~+!d~+ d~!Sd~!Rd`+d~&wd`*d~%Hd~%Gd~%Fd~$sd~$rdrgd~*nan&_X&~'Y_Ud~'Z^ud~'[_~dM065_<d
M095_;dM076_pdM048_kdM179 KUAd~']zed~'^zHd~'_zzdM126zYdM118zX' 4zrW 5zndM194 WUIdM143~.vdM061 WVI
A 9 WVAdM13) Ed~'`n:d~'amPd~'bMUNdM059n%dM094nEdM154~(cdM189 MUENd~'c:jd~'d:)d~'e;6D 0:SR 7:PdM1
03~!CdM138:xd~'f]md~'g,%d~'hyA 63>oH 0>d. 5pZdM147p>U 7>t' 1^(' 5'!95/BdM178?.d~'luGd~'mt3d~'
nvcd 2td 16tTU 6v$dM079u|] 6 SIAd~'r`ed~'s`0d~'tm0dM084`LI 3`HdM054m&dM153`zm 0m#`Hd~'i=id~'j=
7d~'k>RW 9=TdM180~#o( 1>4d~'ox<d~'pw3d~'qy9dM091wXy 5wO 04xfdM069xVd~'u^ed~'v^Xd~'w^rdM157^_dM11
3^^dM160~&AO 3^idM175m#^id~'x+d~'y|,d~'z|x!9|9dM080|8dM141|PdM121|Md~'|@ d~'~?id~( @fdM078?v' 5?t
dM133@I] 8@FdM197 FUAt 1~$Td~(!o]d~(#NANd~($p,dM117o;dM169 NONdM176]Cd~(&[fdM186]bd~(%]7dM096].d~(
']TdM140]OdM083 HEEIdM128 HOOUdM053~%^dM130~%KD 7~%o8 2~%[ 93]SdM046 HUANz 0~),d~((oHO 2oMdM115
~)*dM146oIdM156oLdM120oK. 9 NGGAA2 7+ UAZ 6m#M!06m#O!83m#Q#5[5v 1@kdM168[YdM190[%. 6 GUEI
* 7 GUANY 4~)(dM057~)2dM177 N;#068qvdM099qA!0r]dM081qR. 1qMdM102r<J 6r/dM145mj. 2mfdM122mndM0
47midM188' 072mhdM172mm' 4ml< 7 MBUUdM161m#A!05m#C!42m#E!32~&pdM092_tj 4~&rd~()~&oP 8~&ndM11
2~&qdM158_udM124~% dM056@~n 8[!d 3~$~U 7[ l 1~%#( 0~%!dM171s(] 3o3' 9o.' 5o6dM191o2dM119o1dM
067~(y( 4o4dM152~):E 2ogdM149oedM134~)?dM182z3' 5y|L 1zCdM173z+dM085z(R 4~.hdM077zi 64 NYINdM0
58 NYANQ 0 NYU4 94 E* 64 ON&RH8<Qp(TEENSewbe]gex1ewax1e]fx1en8a.v'!/4d~#9d`2d~(Od:)d~,=dqMd:id
s(d>dd?.=k!=gd~/9dzVdp,d^zd|,dyPd~&9d;~d[fdrld@kdp3dy9doRdy|d_Fd[ d|ad_udtrb%	!3'	!3~/4`[bz@`[b[&mY
b[qb<[nDbGEMINATE-!p'bo(0?>=^2?WmYcs mYa^,uh&&N7&VO[&&T~`:dLAKHANc`:mYcp(KARORd&!ANdrN	<d5cr*c
(HS(ct0e!/<V#wax0c/<| apq	$<~	$<~cMARRATANc/<p(	$%2ewae@U]feua]feyLx0ewax0%g^ euea*mb/1c:Vc^`c=
=0~T [icw=c|:1.-'t[c/&c?xct5crmcsCcu(cwZcwyc_Gcwtc=8c|_c[/c>@:Vdood?xdrmc^2:Vd^`d]9d[id|:d^zd`<dm~
C t[d/&I t5drmdu(dwZdwyd_Gd=8d[/cw@^`X$`<R&O&I&d>@ooermcv^	!5'w=	!8 	!5@|_j#:Ve?xcm(/1dm#==
p zVd|`v&	#/4sCy*wt~&c>Eq%napam~$[i$wNd[i$==amHxG>izjcv)zjcz]zjcorzjcs>>Lc[R>Lczc>LcpXpF;pcyL
'!x3'!@U'#6'!ua'!tm'!>v'!o_' `!:<cyL'!x3'!@U'#6' `!:<`!:<`!:<`!:<`!<8cyL'!x3'!@U
'#6'!ua'!tm'!>v'!o_'!PLUMcORCHIDc:;cCHRYSANTHEMUMcSPRINGcSUMMERcAUTUMNcWINTERc^mc:,a>=xG]Y:,c
1%b$-00-00&3*13/23/33/43/53/63#z.:,cVERTIC	!N%1(11-21-31-41-51)	!B%ar,;Y:,c.qpFv.cyL
'!x3'!@U'#6'!ua'!tm'!>v'!o_'!w<#^Y'!_h'!r~.#Z'!.qpF]3cyL'!x3'!@U'#6'!ua'!tm'!>v
'!o_'!w<#^Y'!_h'!r~.#Z'!s>^mc.qpF=ocyL'!x3'!@U'#6'!ua'!tm'!>v'!o_'!w<#^Y'!_h'!r~
.#Z'!:q	!-!<JcyL'!x3'!@U'#6'!ua'!tm'!>v'!o_'!w<#^Y'!_h'!r~.#Z'!zc^mcFOOLcTRUMP-1(*%
0+a=w|k@gvVc<RbpX<RbyL<Rbx3<Rb@U% 6<Rbua<Rbtm<Rb>v<Rbo_<Ra>!<7tB` bo9+%a<7|k$unb/M/gb><#$py:0aqA
'8%kaxku+;*)'!t2a<7^P)'!;Ifs'b~!dbWZaCOPYLEFTw.av9	!Dlb]ibnlbSDbv=bPPVb~.sao9<7)'!!9Uhas2~(9#bMD#b
MR#a<7~!cb;I$py:0b]d@&ao9v9	!=m<ux$q'a* ]pcq(ct3c.jc~.sav8DJav9CLbCOOLb@]bIDboBboEbpObSOSbyj$?WmYb
VSbx3=6btXtRbyL^tb@U^tb>v* 6r2pXbtm'!yKr2yLbufq'bpX]fyIq'b)%!=6bHCbHDRbHI-RESbLOSSLESSbSHVbUHDbVOD
amazvw.asA^-w.	'lkv8]JHOKAav9_4KOKOct3b<<ygIDEOGRAPH-624Bd/'5B57/)3CCb_4=RV!~%~<)91A/(89E3>*29
/(4EA4/(6620/(7121>)599l)24D/)F8C/)18D]*B0]*1>)7D42/)51F/(8CA9])8Fl*43>)6F14/)295/)
355	#k(00d~%|3(904A/(5DE6Q*2D>)3F3	!$(07/(8D70d~& 3(7981/)A7Ap)408p)E80/)709/*M*7533l)2
72/)5B6/(914D	.u!	'w*72Cf~%|f~%~f`(B89/(70B9f~& 3)6D7Q)2DDfx(557a<7]vADVANTAGEcACCEPTat$w.@L@
fdm0dSHOUd|&dSHUANGXIdCAIaCYCLONEaFOGGYa<DybaoY$STARSa~,xpwMOUNTAINSba~!w/uDUSKaSUNSETpw~!OaRAINBOWa
;2/uoYazPzRaVOLCANOaMILKYzWa>h[@EUROPE-AFRICAcAME( ScASIA--pW IAa[@$: DIANSaoBnOw.a~.r<p*!@0rz
3%~%44#g2$l2%`FF&lY$' p!$?kg!*!J!4$g(#vt& GLOWINGvKaSHOOT+#~-Wa:q~#yazcvtc$%<Hc:X<He$
s1a<H$s1cuxc`hcTORNADOaFOGazj~!>?ka]]>:aTACOaBURRITOaCHESTNUTaSEEDLINGaEVERGREENxuaDECIDUOUSxuaq3xua
CACTUSa]]~*8aTULIPc RRY~!=aROSEaHIBISCUSaSUNFLOWERa< >gpFMAIZEcsVaHERBa@U`JCLOVERaMAPLE`JaFALLEN`J
a`J~$a^(zjaMUSHROOMaTOMATOaAUBERGINEaGRAPESa~(?aWATERMELONaTANGER@ LEMONaBANANAaPINEAPPLEas>~ Ra[R
& PEA%!CH	#1 IESaSTRAWBERRYaHAMBURGERa~,IpFPIZZAamspV:~aPOULTRY`VasVCRACKERb:7aCOOKEDsVaCURRY/* S
TEAMING;&aSPAGHETTIa~!Ka~$jFRIESaROASTED~-#~*aaDANGOaODENaSUSHIaE D~,-a@1;M$w+DESIGNau~]q~#'aSHAVED
]qa/#DOUGHNUTa~#$aCHOCOLATE:BaCANDYaLOLLIPOPaCUSTARDaHONEYrAaSHORTCAKEaBENTO;(arApF@JaCOOKINGa@N/D_
gaTEACUPzm~%LaSAKE;#/D=$azk[?aCOCKTAIL[?a~.'~#va~!$n_a~!x~!$MUGSa:+;#l$$PLATEa;#$POPPING CORKaPOPCO
RNasUaWRAPPED *H' aBIRTHDAY;MaJACK-O-LANTERNa<+xua~$U<+aFIREWORKS*& ,Z[ Ra:8aqFPOPPERaCONFETTI:7a
TANABATAxua<uFLAGSaPINE~#Sa^Z~#maCARP STREAMERazjCHIMEanOVIEWING CEREMONYatOSATCHELaGRADUATION;Wa]2$
xLp-L.!HpF	)d San7muaREMINDERsUanj_E$JACKSaSTUDIO~(Ia~';SLIDERa<dKNOBSa:Q~ [njoyb=a' a~$YFRAMESaAD
MISSION TICKETSaCAROUSEL][aFERRISzaa~+OCOASTERaFISHINGr7/D@1a~(IaMOVIE;PaCINEMAaHEADPHONEaARTIST PAL
ETTEaxh]*aCIRCUSwda	!5 aCLAPPER:yaPERFORMING~ Za~.b~$wa>$~%aaSLOTm@aBILLIARDSa~$w=raBOWLINGa@Cr,C8!
njowanbnjoyaSAXO	!N GUITARanj_EaTRUMPETaVIOLINanjSCOREat/SHIRT$SASHa~-M~+'/D:7a~,H/D~,H~!FaBASKETBAL
L/DHOOPaCHEQUERED@8aSNOWBOARDERaRUNNERaSURF' PORTSmuaTROPHYa][s*a	2a!N~$daRUGBY) SWIMMERazZLIFTERa
GOLc s*MOTORCYCLEb;Xa~#(:J/D:7aVOLLEYBALLa~$X~%evQ8!]q,$PUCKaw7~-MPADDLE>!uxCAPPEDnQaCAMPINGaBEA
CH$yba;<<^a]`~!Oa~!waDERELICT]`;<aCLASSICAL;<a~#ZbISLANDa~(uPARKaSTADIUMaL b$GARDENapG;<a^Zr?pGa~$O
(!HOSPITALa:@aAUTOMATED TELLERm@a~%lam+& CONVENIENCE~,natOaDEPARTMENT1 FACTORYaIZAKAYA 	+s#^Z;aa~
$O;aazc~*5a:q& zTzc@8b:q@8asya:qsyaLABELaBADMINTON~+'/DSHUTTLECOCKa;%/D/gaAMPHORAa?,nD@5TYPE-1-2d~.
F#as6anRaq#azPBUFFALOa<naxAaLEOPARDa~+&a;ba>LaCROCODILEa~.waSNAILauva][as3aGOATau)anGaROOSTERaCHICK
ENa>:ar!a~!?a?&aOCTOPUSav2u+aBUGaANT	0f BEEaLADY~!%a@1a~.'@1aBLOWFISHayBaHATCHING< a:+< aFRONT-FACIN
G1!:naPENGUINaKOALAaPOODLEaDROMEDARY~!YaBACTRIAN, DOLPHINanR?ka<n?kaxA?ka~+&?ka;b?ka>L?kaSPOUTING~
.wa][?kanG; :?kar!?ka@_?kaHAMSTEj WOLFg !< PANDAI!osaqKPRINTSaCHIPMUNKa?da?_a>gaosanSaxdazcyjr5
:.^+b>G)$`N)$sa)#aFISTED[r#azT& pO& x8yj#b>G#	-y ING] #ap^& ~#,azp]*aEYEGLASSESaNECKTIEaT-SHIR
TaJEANSa~#uaKIMONOaBIKINIazp<GaPURSEaHANDBAGaPOUCHaMANSu:aATHLETICu:aHIGH-HEELEDu:azp~+ebBOOTSaFOOT
	#k!BUST^(uP)!S*#OYaGIRLamPazoa~$SamP/Dzo]R] ayLn%) bWOMEN3!r8OFFICERazo$BUNNY~$+aBRIDE$VEILaqc$
BLOND[jamP$GUAqvMAOc~.:apRmPbzoa:+a<^WORKERaPRINCESSa^ZOGREbGOBLINa[3a:+ANGELaEXTRATERRE*vP  @a~ @M
ONSTERaIMPaula^/DESKqcaGUARDSMANaD-&p IPSTICKaNAILr9a?kMASSAGEaHAIRCUTaBARBERr7aSYRINGEaPILLa_^mYam
+!asjaGEMvUa_^a~!HaCOUPLE$]2aWEDD	/2!TING]2a;3]2ayL]3a	7b 6#GROW*#]2$/ga:w]2a[R]2a|;]2ara:#sUa~+<
]3a]2~#Sa=nSHAPE$,%>?^7a?$`gBULBa/Fw.aBOMBauow.aCOLLISIONw.aSPLASHINGw*w.a~#ya=M PILEpFr<aFLEXED BI
CEPSa~#jw.av0:8ax/:8azc@Ca]fPOINTSa (X:2a=(EXCHANGEa]5><#a<o;Ya:A$|<#c><#c~$N#crB#P $WINGSa;r$ypxv
/D|<#aSEATa~*<<XaBRIEFCASEaMINIDISCa@?>(a~)r>&aDVDa@'@Gap^'!q,$=&b?lyja;NaTEAR-OFF;Na;Y^+	!*#c>Jxva
:B;raCLIPBOARDarbat#rbaPAPER7 avX~+Vaxz& ~!DTABSaLEDGERa~)Fb$DECORATIVE<la<D; ap^; a[R; a:w/ f; a
BOOKSao#BADGEaSCROLLaMEMOaw^s;aPAq ?sm@a~+i~ JaPUBLIC .7r  LOUDSPEAKERaCHEERING MEGA	8k OUTBOX~-wa
IN)$PACKAGEaE-MAILw.aINCOMING?8a?8$>J/g.na<DmJ$~'M@8ds2@8ap^mJ$* d5!aPOS| ar@]Za~)%anBquc$sh/g/u
`NaVIBRATION MODE>!OFFaolnBPHONESa~ J$:Ga;Pb$FLASHa~.b;PaTELEVISIONa~+(aVIDEOCASSETTEa~$Y,+! ORaPO
RTABLE STEREOaPRAYER BEADSaTWISTEDsh/ka<Bsh/D`Up^<6/kh$<7pXp~b>J/Dyp5#a/M/*m,~!Mw.a]G(#v/$;Sv`bb$
pXv'zRcx3v'zSa~ wa?$PLUGa`Q~(-[?asd(#`~$INKqUa<D`~$_Da_Da`~ap^`~a:Zbq!a~!Da~'Bw.a~+(;Ea:,$`U/g.na?
2*%pV$?WmY$.>k!aSOON$sh,!xh$yp*!olpXye>wm &Twaa^3w.@L)'`ae%`adNUMBERSdw/d)`aa@/a?$TORCHa~/!a[pa
~)Q/D:|aHOCHOaPISTOLaMICROSCOPEaTELE*#CRYSTAL:7auar3vK-iP Zw.@LBEGINNERax|EMBLEMa:qv8;Eazc'!`Cs><
6b:w<6bpf=nb:w=na%+'yks>xxa>H'!yk%/$(!,~d ->u +&<7<tr:a% $[n:[caov`Ntc$x3>Absa*$aw.@LMARKS 
CHAPTERazc)<ta]5& CELTIC<tapSw.a~#rpFqNaKAABAaMOSQUEaSYNAGOGUEaMENORAH$o_BRANCHESa;&pFHYGIEIAa<A?kp
XpBcyLpBcx3pBc@U% 6pBcuapBctmpBc>vpBco_pBcw4 ?'R HpBcONE-THIRTYcTWO+&HRE8&FOUR,&IV8&SIX+&EVE
N-%EIGHT-%NI	!'&D(LR)TWELy&asav/c	)I!d	)I#!Pb$*!RINGING:Za; aCANDLEaMANTELPIECE<Aa:q->9!olPIR
ACYa~%famP^(BUSINESSvnLEVITATINGaSLEUTHpeSPYa~#D~,wa~,^bWEBaJOY	6, mPDANCN `N[rw^s;a% $q,asa1$zc~
-rw^a:q(#w^pVxhpFMODEMaCLAMSHELLnBqua:,pF?8a~,i	/5 `ha@E?8aqUpw5#LINKED 	1z$Sa:qrbam.`NqVcBALLPOIN
TqUc~$hqUcPAINTBRUSHcCRAYONa`N~/#[ray@	<v s2[r$@.~,aasQ-'bx8yj#c>G#b~.`[rb[r$n2@+?YR#qC:fn2/Dsj@.a
zc>Gr5`N[r^+auK-BT!c-BM :q0*a:q	>]*V$yjF!>GV$0&V$	?I-]2a~#[<Xa_E/DnRax3NETWORKED COMPUTERSa~
*faPOCKET CALCULATORa:q]'u+@?>(azc+&u~)$~-CCARTRIDGEaWIRED_EapX;EnRayL'!x3'!TRACKBALLapQ	7g ]'>(
atRa~*f]sa?s]s	7b ]sa>7$wmd/Dqwcqwa@Z$qwcTILESc/B| a:q@Ga	8& Ga;Y^+DIVIDERSb@';(a@'CABINETa?-owcq,cq
*aowbq,bq*a?->7+ ~*#a>7aq,a* WASTE	M6 av2owq*b;Nq*a~#[~.yaMINIMIZEaMAX)#pza<Bsa/D`Ntc/ka;S| a^)~$
c~,Ew.a~#T,&COM*`E!apQ_DaROLLED-UP~)%aq,$<7wmavT;ra=;_ga`paSP.^E /^(uPax3s8.nc:[c`Ncsaa`Nv0;7asa
'!yLv0;8ax3'!`Nx/<!'!`N/F.!'!nN3 h' ca::;($::btS| b;($(!:z/%*#a`g;umYM$z;uaWORLDmUaMOUNT
 FUJIaTOKYO TOWERaSTATUEpFLIBERTYauPpFJAPANaMOYAIa[S?kc$uu?da?k$wVpF^qauu?k$p^nSf/D; g<Ow*g~-[?ddHA
LOd~%ja~.|?kK!`%SAVOURING DELICIOUS@Ja~+6H%~%R?dd~,waSMIRKING?kaoA?kaEX	%H#LESS?kaUNAMUSED?ka?k$<
Ow*aPENSIVE?kaCONF= +$OUND-!__O!TH	BR ,%_^a__	!h!d<D	#P vbxde/D~.|?_f~-[?da~#g?kaWORRIj!ANGRY?k
arC?ka<x?kaPERSEVERING	!Y LOOKpFTRIUMPHb ;D	#U @d	$M!g UISHs!FEARFUL?ka~.t?kaSLEEPY?kaTIRA!GRIMA
C	!% LOUDLY<x?kam%HUj 1'/D<Ow*bSCR	a4 ^(FEARaASTON	!:$LU%uo?ka~#ja!zmnSb$MEDICALmaa[S;b	%|#;b
	&a';b	!4!e~%R>%WRYuta__-!<D?darC, a<x;b	#K (!up-O<$UPSIDE-DOWN	#. ~+P?dcolGOOD~%*cpO~%*aqcBOW
	'? EPLYaSEE-NO-EVILnGaHEAR/'	+' ?)APPYqc~+)pX[ra*!~!G] ^(CELE	@z!b@db$rC?kcFOLDED] aorz]r5`Jav)
)$or>i2$)$y@F%bF%bF%bF%k$z6m&z6o$6&+&]5N'bN'bN'bN%|&;9y$;9w!2$)#s&;9bF%bF%b
F&~%gs#v8pke-G3 ~,T1+`Usraypsrashsra>JsratS`f?Mpka]5+&`fp^4$+%b/Apkaw)'!tB]5-=#&d)%cm,-<t%
]5^=N!^=.!)$z0]5v!csPv!a;v:yasP'#raHELICOPTERa~,l~'Has0;Xa~%[xqc$;>osaxqaMETROa`gRAILaSTATIONa~-
ub;Xa;CapW;CaTR	^W USa;CvVaMINI- AMBULANCEa@/~$@ar8;XapW'!~-EapW& ~ capW& RECRE,N.  VEHICLEa
*s' Yy$aARTICULATED LORRYaTRACTORaMONORAILanQs0aw s0anQCABLEWAYaAERIAL TRAM/ u6aROWBOATaSPEED*!]Y
xp`gaz.'!<^#ar8CARS~+<`gaxz@8pVr?a~#paol?7#a~,Ow.aol(#rc~'E^(ITSr)w.a>4ot~'Ew.aPOTABLEzPw.aNON-0)
BICYCLEaol*$Sa~!+anQ& ~*3aolPED	T- NSaCHILDREN<waMENSw.aWO)$RE OOMa:+w.aTOILETazPCLOSETaSHOWERa:
La~ vaPASSPORT<daCUSTOMSaBAGGAGE CLAIMa`N~'Oaxx$t$<iaPROHIBITED#a<7^/v(aBOYSw.aGIRL( COUCH/D~''auoA
CCOMMOD	'(!,*BAGSaBELLHOP:ZaBEDar)pFWORSHIPaOCTAGONAL#M 	'I!aSTUPAaPAGODAaHINDU TEMPLEaHUTaELEVATOR
aPLAYGROUND SLIDEazaasjBUOYa[p/D~/!au1apM>PaMOTORWAYas0~-sa~(_~!@aykn7/(b/(b%/(a$ NORTHEAST-POINTIN
G/(a/(~#YbARRIVINGa~+iapW	(y DIESEL~'HaPASSENGERu6a~+la~(_' CANOEaSLEDa@ESAUCERaSKATE	S; AUTO RICKS
HAWaPICKUPy$a~+O~,Ga/0w.@LQUINTESSENCEd/'d@/d>hdzPdAQUAFORTISd/YREGIAe&!-2eVITAE&#-2d~.ddVINEGAR-2
 dvqdPHILOSOPHERSvqd:qvqdn'vgeSUBLIMATEJ!CINNABARdt:dNITREdVITRIOL(%-2dsqt:eSALT-2d[DdSILVERd^Hpg
eORE-2d<rpF^HdsB'!<fpgdIRON-COPPERpgdvgpF<fH!<ff7#X f~ Kdt:pF*!G!.#dVERDIGRISdTINpgdLEADpgd/N
o$/NX!/NU!+$~.d(!sB' fANTIMONY-2edREGULUS-2!dALKALI'$-2dMARCASITEdSAL-AMMONIACdARSENICdREALG
AR(%-2dAURIPIGMENTdBISMUTHpgdTARTAR'!F!QUICK LIMEdBORAX&#-2 dALUMdpMdv3dTINCTUREd[_d~.qdPOWDERd
CALXdTUTTYdCAPUT MORTUUMdSCEPTERpFJOVEd~!Vdx|dSTARREDx|dLODESTONEd~,PdURINEd][~#zd~ ]drA& ;1	!,!ED;
1d,^a dvZ~,yvZfSTRATUM-2d	')#IONdPRECIPITATEdDISTILL( SOLVE)&-2dPURIFYdPUTREFAC]!CRUCIBLE)&-2#
d~ =d:LpFMARYfVAPOURSdRETORTd]^doYdDAY-NIGHTdnLd[m~#te~)wa:q`Q^Nsaxxbyk)$sd)$>H)$up%<6amy:zzc<6a
'$]5'!z0)$?^2$% <a:qU t#wMa:qxKv8h v8a`gzcv8amy' m!v8m!v8m$v8m$-x( <,K2!emyv8av8t$=nb
z0%=nbmy%-uK K$=nemy=na=nK$m/K m/K m/azcm/K , x%[Q<ta`g'!my'!:z'!z0)#b]50!?^)$x%t;a`gt;
amyt;a:zt;a]5t;az0' I!B!@6v5/samy)$:z)$]5)$z0+&?^+&`guaZ$uaZ$uaZ$uaZ$+&?^+&`g>vZ$>v
Z$>vZ$>vZ$+&`gx3-Z? my+&4,r%vKa`g@U6&+&4*J$sPL W'6C$]5@6N&ua6&+&uaU$my>v?&+%	#! 
8)	!)$yH6&+%d;!<7xxao9'!<7v8ao9'!`Cpf<6b|;<6b[R<6bra<6b;4<6bs>v8b:wv8bpfv8b|;v8b[Rv8brav8b;4v8
a]5?A#a`U/g$%xx/iayp+&sh+&>J+%L#myM'myN'myO'myP'`CP'`CP'`CP'`CP'%?CO!+&sh+&>J+#L%
K'J'I$*%]5J&bJ&bJ&bJ&b	!u!J$,'sh,'>J,&,HF!o&tyayp,'sh,'>J,&P%myP'myP'myP'myP':z
P':zP':zP':zP']5P']5P']5P']5P'z0R$.)sh.)>J.)`U@,/gayp'!sh'!>J'!`Uv9<!v9<!v9<!v9<!
<W<!<W<!<W<!<W<!]5>$]5@$]5B$]5D&B$@$>$<!tB<!tB<!tB<!tB,T$ ) b>i0!v))#b7 ,TV _#
j>G)!zg`U`g:C/gbyp)$sh)$>J)$y +#c>i4$v)+%c=%b`Uk$i$g$e&c$a&_$]$my_$mya$myc$mye&
myg$myi&4$= m$]5m$]5m$]5m$]5m&]5m$]5m&4$= m$z0o&z0q&z0s&z0u(z0w&z0y(8&C'a`U
	,j!	,e!	,`!' .xI zlB$-(sh-(>J-#	-3%ovw?ayp*%sh*%>J*%]5/gtyzhpXeyLx'epX[mfx&a`U-dL SHADED
,VL ;$twzc	!v htw6$xh6&`R4$se2$se2$`R2$:-tx4$+&`U@b6&+&zc	!d(a/gr5ypwzorz]cshwz=-v)z]a<7<
t@Q$@U>AeyL>Ada`N[m<62#x37$e>?da>I?l]Ucov]Uc]U$>?cov(!aPINCHED@.azc]2a;4]24#ING[raZIPPER-MOUTH?k
aMONEY.#	UL!-WaNERD?kaTHINK	Y7$HEAD-BANDAGEaROBOT?ka~%n?ka#pFww~%ja;Omp[ras2:,pF[ra`O@3asb@3aHANDSH
AKEa[r$^+/Dn2@.<ua]mm+YOU[r#a?k$COWBOY]*aCL	W' NAUSEATED?ka~+PpVww@>LAUGHINGaDROOL	Yz!Y	!p#q3aSNEEZ
0%$pXEYEBROWs2a[S?k$vK?ddpX`C/DpX%?_E @+<m<D`paSERIOUG w/<mnS	_b%/D[r2 	Zo#VOMI	lW HOCKED?k$EXPL
ODING]/arOzoaBREAST-FEEDJ PALMSyjxXaSELFIE!'. amP^(TUXEDOa~(^<+aSHRUGaqcDOING CARTWHEELaJUGGLk FE
NCERaMODERN PENTATHLONaWRESTLERSazPPOLO!*Y LLaDIVINGmaaWILTED@Ca>P$DRUMSTICKSa~!x!+f!TUMBLER[?av6a
[Co?aRIFLEa@0r)muatX'!x&'!BOXING GLOVEaMARTIAL~ ZUNIFORMaCURLINGvUaLACROSSE!6L SOFTBALLa@E>&aCROI
SSANTaAVOCADOaCUCUMBERaBACONa~*aaCARROTaBAGUETTE~!Ka[RSALADaSHALLOWq5pF@JaSTUFFED~$]a~$0a[?pFMILKaPE
ANUTSaKIWIFRUITaPANCAKESaDUMP	$l ORTUNE~#$aTAKEOUT;(aCHOP	$8!;&$v6a=$$STRAWaCOCONUTaBROCCOLIa~*GaPRE
TZELa=/pFmsaSANDWICHaCANNED@JaLEAFY[RaMANGOanO;MaBAGEL	'o'x3]3aYAWNING	fE#TEARa?k$qF]Z/DqF]*cUNEVEN
Q zUnSaOVERH	*!#FR	)S$NINJAaDISGUI	f[#]R:,wVb$P1l$ ?da~+haLAB~!zaGOGGLESaHIKING~!Fa@9u:aCRABaLION?
k.3M ONaTURKEYaUNICOR: ~$*aDUCKa:JaSHARKaOWLa~$i?kaBUTTERFLYa=UaGORILLAaLIZARDaRHINOCEROSa~,-aSQUI
DaGIRAFFE?kaZEBRA?kaHEDGEHOGaSAUROPODaT-REXa~#(aKANGAROOaLLAMAaPEACOCKaHIPPOPOTAMUSaP	'I RACCOONaLOB
STER	|@ ITOaMICROBEa~ raSWANaMAMMOTHaDODOaSL+ OTS ORANGUTANaSKUNKaFLAMINGOaOYt!:RaBISONatUaGUIDE>
:aPROB	+m NEa?,<Us>[jc='[jcBALDczc[ja:~a`Va@KaxgaSUPERHERO*#VILLAINat7VESTa>g$HEARs AID	W. IZEDzba
MANUALzba~(</db`VaCHEESE WEDGEaCUPCAKEat:SHAKERa~!(;(aGARLICaONIONaFALAFELaWAFFLE	%s!aMATE~#va]q<~a;
7TEA	`s aSTANDINGqcaKNEEL+#DEAFqca?k$MONOCLEa~ 1a<$apR) BEARDEDqcaqc$HEADSCARFb^(STEAMY ROOMbCLIMB
INGb^(m*r>aMAGEaFAIRYaVAMPIREaMERPERSONaELFaGENIEaZOMBIEaBRAINapf]2aBILLED;WaSCARFaGLOVESa~!zaSOCKSa
s>GIFT?8aFIRE!Ot aJIGSAW PUZZLEqxaTEST TUBEaPETRI>'aDNA>CHELIXaCOMPASSaABACUSa@/EXTI	n9!RaTOOLBOXa;
1aMAGNETa~'OaLOTION;#aSPOOLpFx2a:7pFYARNat7~*OaTEDDY~!!aBROOMa	vt!ROLLpFq8a:BpF~,Pa NGEaRECEIPTaNAZ
AR AMULETaoA.=A.zc;z_hsz@S=Wa:q-(oA-'G#Z&3N r~)$sw)$:p)$_h)$qL) u!ZUoAZT	#@$pX]fx*	#D 
1+oA1)S$y@_Zdr~dswd:pd_hdqLa:q83oA80	$a&yL]fyJ	!A 1+oA1)	$m$1#to	#W -'sw-(:p-(_h-(qL-'a
:qsnoAsk	%Y&x3]f@!	$9 1+oA1)S$?BI!?B?!?B5$	'm$-'A$	&n&~&fc~&gc~&ea:q0+|'s>~%%c~(0c?&c][c;
qc~![c~,Sb:q;5aBALLET SHOESaONE-PIECE SWIMSUITaBRIEFSau@a~-Y~+eaDROPpF~!<aADHESIVE 	@x#STETH!4U X-
RAYaCRUTCHaYO-YOaKITEaPARACHUTEa~!EaMAGIC WANDaPINATAaNESTING~#maRINGED PLANETa~!laRAZORa:#aDIYA~''a
BANJOan7]:aACCORDIONam#>PaCOINa~!]tJaSCREWDRIVERaLADDERa]Ua~(Qa~.yaPLUNGERaSEWING NEEDLEaKNOTaBUCKET
anRTRAPaTOOTHBRUSHa~%QaPLACARDasql :7a~%z;Yam,~ waHAMSAa@DaWORMa~!%aCOCKROACHaPOTT	#B!Tazsa?uam*aCO
RALa?-~)$a~)$$EGGSaANATOMICAL]2aLUNGSa~*7~%narOmPb	3/ ~#,aBLUEB!b6 :Z~*8a~)ia~$]aTAMALEaFONDUEaTEAP
OTaPOURING~'CaBEANSa~&6aMELT	;S SALUT	D5%^	CL pwnScPEEK: _c=knSa>B`l?ka~!1`oa;8	Ex @+/Dx7<uash[ra`U
[raq3>G[rbyj[ra^+r5/uwwVIEWERa]2] a:(tq T-1 b,&2+&35'+'26(,(46'4L'6(,(34z(N(8)-)57'
5N'6(,(35q(C(-)48(4P(8)-)39)3R):*.*68'6P'6(,(37(3N(8)-)48(4D)4u(9)-)2:*
.*59(5R(8)-)39)3R):*.*4:)4T):*.*3;*3V*. am.`N:v=km.n2`NxVm.;ijsaeym0*f,%bsaO ?%y
mO#m.0*f,%f7%n2saf;ixVJ q&6$A&L,ymsab`N	!7 G(tBm.safn26'ap 	#WH`N	#W*	#W~sa	#Wcb/Dsa/Dm
.xzx3r|:va`N/ 7 3&ym/D`NF.ymF)bxzpXrzO!+&sa+&m.+&z.pX>x~!6%a]Y,&v!.me#.lN%/D-%c?%aym
L'f$BLOCK-1358aP .nJ#.nE2saE@`N[mmytN )$ym)$m.)$^?9&:v/D8 3#c'!3$n$3%sa3!;v:y@(a^?
)$]5]Y@(a.mm&b.mm$b	%: n$f -#P#z| b4 	!g!+%b=%/#8 	':#n2`Nisae	(~%fsa)#eB#:'i:%N&
@#sahym+%V(/D1 ]&/DW'j_'`Nin)	!R$t'	!_&	!Y+e=nd]Y$z.v`aARROWHEAD-SHAPEDr4a^?;umYa`N[mt/mPas
a)$^?/bt#a`U/g/D	'M(sh3.>J3 sa/$yp/'	&1!@Gasa'!VOIDED[Q<tasap^v9>?ao9=k<tc	#;%c=nazc]5t;$t$<i
a`Nx&z!G-!n2-(sa-(o9v9s mYavQ@&c$ARMSs2c~'3`Ndsac$~#uazcyk~!pat^%cf:LANGUAGEw:aw:v,b)PgG)Pg~
)Pg~)Pg~a~!Zw:)e5'7sb.'00~b"

/-- The variation selectors by their short names: `VS1` to `VS16` from U+FE00, `VS17` to
`VS256` from U+E0100. -/
def selectorAliases : List (String × Nat) :=
  (List.range 256).map fun k =>
    ("VS" ++ toString (k + 1), if k < 16 then 0xFE00 + k else 0xE0100 + (k - 16))

/-- The other names characters may be looked up by. -/
def nameAliases : List (String × Nat) := [
  ("NUL", 0x0), ("NULL", 0x0), ("SOH", 0x1), ("START OF HEADING", 0x1), ("START OF TEXT", 0x2),
  ("STX", 0x2), ("END OF TEXT", 0x3), ("ETX", 0x3), ("END OF TRANSMISSION", 0x4), ("EOT", 0x4),
  ("ENQ", 0x5), ("ENQUIRY", 0x5), ("ACK", 0x6), ("ACKNOWLEDGE", 0x6), ("ALERT", 0x7), ("BEL", 0x7),
  ("BACKSPACE", 0x8), ("BS", 0x8), ("CHARACTER TABULATION", 0x9), ("HORIZONTAL TABULATION", 0x9),
  ("HT", 0x9), ("TAB", 0x9), ("END OF LINE", 0xA), ("EOL", 0xA), ("LF", 0xA), ("LINE FEED", 0xA),
  ("NEW LINE", 0xA), ("NL", 0xA), ("LINE TABULATION", 0xB), ("VERTICAL TABULATION", 0xB),
  ("VT", 0xB), ("FF", 0xC), ("FORM FEED", 0xC), ("CARRIAGE RETURN", 0xD), ("CR", 0xD),
  ("LOCKING-SHIFT ONE", 0xE), ("SHIFT OUT", 0xE), ("SO", 0xE), ("LOCKING-SHIFT ZERO", 0xF),
  ("SHIFT IN", 0xF), ("SI", 0xF), ("DATA LINK ESCAPE", 0x10), ("DLE", 0x10), ("DC1", 0x11),
  ("DEVICE CONTROL ONE", 0x11), ("DC2", 0x12), ("DEVICE CONTROL TWO", 0x12), ("DC3", 0x13),
  ("DEVICE CONTROL THREE", 0x13), ("DC4", 0x14), ("DEVICE CONTROL FOUR", 0x14), ("NAK", 0x15),
  ("NEGATIVE ACKNOWLEDGE", 0x15), ("SYN", 0x16), ("SYNCHRONOUS IDLE", 0x16),
  ("END OF TRANSMISSION BLOCK", 0x17), ("ETB", 0x17), ("CAN", 0x18), ("CANCEL", 0x18),
  ("END OF MEDIUM", 0x19), ("EOM", 0x19), ("SUB", 0x1A), ("SUBSTITUTE", 0x1A), ("ESC", 0x1B),
  ("ESCAPE", 0x1B), ("FILE SEPARATOR", 0x1C), ("FS", 0x1C), ("INFORMATION SEPARATOR FOUR", 0x1C),
  ("GROUP SEPARATOR", 0x1D), ("GS", 0x1D), ("INFORMATION SEPARATOR THREE", 0x1D),
  ("INFORMATION SEPARATOR TWO", 0x1E), ("RECORD SEPARATOR", 0x1E), ("RS", 0x1E),
  ("INFORMATION SEPARATOR ONE", 0x1F), ("UNIT SEPARATOR", 0x1F), ("US", 0x1F), ("SP", 0x20),
  ("DEL", 0x7F), ("DELETE", 0x7F), ("PAD", 0x80), ("PADDING CHARACTER", 0x80),
  ("HIGH OCTET PRESET", 0x81), ("HOP", 0x81), ("BPH", 0x82), ("BREAK PERMITTED HERE", 0x82),
  ("NBH", 0x83), ("NO BREAK HERE", 0x83), ("IND", 0x84), ("INDEX", 0x84), ("NEL", 0x85),
  ("NEXT LINE", 0x85), ("SSA", 0x86), ("START OF SELECTED AREA", 0x86),
  ("END OF SELECTED AREA", 0x87), ("ESA", 0x87), ("CHARACTER TABULATION SET", 0x88),
  ("HORIZONTAL TABULATION SET", 0x88), ("HTS", 0x88),
  ("CHARACTER TABULATION WITH JUSTIFICATION", 0x89),
  ("HORIZONTAL TABULATION WITH JUSTIFICATION", 0x89), ("HTJ", 0x89), ("LINE TABULATION SET", 0x8A),
  ("VERTICAL TABULATION SET", 0x8A), ("VTS", 0x8A), ("PARTIAL LINE DOWN", 0x8B),
  ("PARTIAL LINE FORWARD", 0x8B), ("PLD", 0x8B), ("PARTIAL LINE BACKWARD", 0x8C),
  ("PARTIAL LINE UP", 0x8C), ("PLU", 0x8C), ("REVERSE INDEX", 0x8D), ("REVERSE LINE FEED", 0x8D),
  ("RI", 0x8D), ("SINGLE SHIFT TWO", 0x8E), ("SINGLE-SHIFT-2", 0x8E), ("SS2", 0x8E),
  ("SINGLE SHIFT THREE", 0x8F), ("SINGLE-SHIFT-3", 0x8F), ("SS3", 0x8F), ("DCS", 0x90),
  ("DEVICE CONTROL STRING", 0x90), ("PRIVATE USE ONE", 0x91), ("PRIVATE USE-1", 0x91),
  ("PU1", 0x91), ("PRIVATE USE TWO", 0x92), ("PRIVATE USE-2", 0x92), ("PU2", 0x92),
  ("SET TRANSMIT STATE", 0x93), ("STS", 0x93), ("CANCEL CHARACTER", 0x94), ("CCH", 0x94),
  ("MESSAGE WAITING", 0x95), ("MW", 0x95), ("SPA", 0x96), ("START OF GUARDED AREA", 0x96),
  ("START OF PROTECTED AREA", 0x96), ("END OF GUARDED AREA", 0x97), ("END OF PROTECTED AREA", 0x97),
  ("EPA", 0x97), ("SOS", 0x98), ("START OF STRING", 0x98), ("SGC", 0x99),
  ("SINGLE GRAPHIC CHARACTER INTRODUCER", 0x99), ("SCI", 0x9A),
  ("SINGLE CHARACTER INTRODUCER", 0x9A), ("CONTROL SEQUENCE INTRODUCER", 0x9B), ("CSI", 0x9B),
  ("ST", 0x9C), ("STRING TERMINATOR", 0x9C), ("OPERATING SYSTEM COMMAND", 0x9D), ("OSC", 0x9D),
  ("PM", 0x9E), ("PRIVACY MESSAGE", 0x9E), ("APC", 0x9F), ("APPLICATION PROGRAM COMMAND", 0x9F),
  ("NBSP", 0xA0), ("SHY", 0xAD), ("LATIN CAPITAL LETTER GHA", 0x1A2),
  ("LATIN SMALL LETTER GHA", 0x1A3), ("CGJ", 0x34F), ("ALM", 0x61C),
  ("SYRIAC SUBLINEAR COLON SKEWED LEFT", 0x709), ("KANNADA LETTER LLLA", 0xCDE),
  ("LAO LETTER FO FON", 0xE9D), ("LAO LETTER FO FAY", 0xE9F), ("LAO LETTER RO", 0xEA3),
  ("LAO LETTER LO", 0xEA5), ("TIBETAN MARK BKA- SHOG GI MGO RGYAN", 0xFD0), ("FVS1", 0x180B),
  ("FVS2", 0x180C), ("FVS3", 0x180D), ("MVS", 0x180E), ("FVS4", 0x180F), ("ZWSP", 0x200B),
  ("ZWNJ", 0x200C), ("ZWJ", 0x200D), ("LRM", 0x200E), ("RLM", 0x200F), ("LRE", 0x202A),
  ("RLE", 0x202B), ("PDF", 0x202C), ("LRO", 0x202D), ("RLO", 0x202E), ("NNBSP", 0x202F),
  ("MMSP", 0x205F), ("WJ", 0x2060), ("LRI", 0x2066), ("RLI", 0x2067), ("FSI", 0x2068),
  ("PDI", 0x2069), ("WEIERSTRASS ELLIPTIC FUNCTION", 0x2118), ("MICR ON US SYMBOL", 0x2448),
  ("MICR DASH SYMBOL", 0x2449),
  ("LEFTWARDS TRIANGLE-HEADED ARROW WITH DOUBLE VERTICAL STROKE", 0x2B7A),
  ("RIGHTWARDS TRIANGLE-HEADED ARROW WITH DOUBLE VERTICAL STROKE", 0x2B7C),
  ("YI SYLLABLE ITERATION MARK", 0xA015),
  ("PRESENTATION FORM FOR VERTICAL RIGHT WHITE LENTICULAR BRACKET", 0xFE18), ("BOM", 0xFEFF),
  ("BYTE ORDER MARK", 0xFEFF), ("ZWNBSP", 0xFEFF), ("CUNEIFORM SIGN NU11 TENU", 0x122D4),
  ("CUNEIFORM SIGN NU11 OVER NU11 BUR OVER BUR", 0x122D5),
  ("MEDEFAIDRIN CAPITAL LETTER H", 0x16E56), ("MEDEFAIDRIN CAPITAL LETTER NG", 0x16E57),
  ("MEDEFAIDRIN SMALL LETTER H", 0x16E76), ("MEDEFAIDRIN SMALL LETTER NG", 0x16E77),
  ("HENTAIGANA LETTER E-1", 0x1B001),
  ("BYZANTINE MUSICAL SYMBOL FTHORA SKLIRON CHROMA VASIS", 0x1D0C5)] ++ selectorAliases

/-- The ideographs named by a prefix followed by their code point in hex digits, with the
ranges they cover. -/
def ideographNames : List (String × List (Nat × Nat)) := [
  ("CJK UNIFIED IDEOGRAPH-", [(0x3400, 0x4DBF), (0x4E00, 0x9FFF), (0x20000, 0x2A6DF), (0x2A700, 0x2B738), (0x2B740, 0x2B81D), (0x2B820, 0x2CEA1), (0x2CEB0, 0x2EBE0), (0x30000, 0x3134A)]),
  ("KHITAN SMALL SCRIPT CHARACTER-", [(0x18B00, 0x18CD5)]),
  ("NUSHU CHARACTER-", [(0x1B170, 0x1B2FB)]),
  ("CJK COMPATIBILITY IDEOGRAPH-", [(0xF900, 0xFA6D), (0xFA70, 0xFAD9), (0x2F800, 0x2FA1D)])]

/-- The letters a name spells its words out in. -/
def spelledLetter (c : Char) : Bool := c.isUpper || c.isDigit || c == '-'

/-- The letters that begin a name: `a` when it shares no leading word with the name before,
`b` when it shares one, and so on. -/
def sharedLetter? (c : Char) : Option Nat :=
  if 'a' ≤ c && c ≤ 'l' then some (c.toNat - 'a'.toNat) else none

/-- The letters that begin the code of a word of `nameWords`. The ten most frequent words
have a letter each; the next `30 * 91` one of the next thirty letters followed by a letter of
`codeAlphabet`; the rest the last letter followed by two. -/
def wordLetters : List Char :=
  codeAlphabet.filter fun c => !(spelledLetter c || c == ' ' || (sharedLetter? c).isSome)

/-- The letter that begins a run of numbered names, followed by a letter of `codeAlphabet` for
how many, less one. -/
def runMark : Char := '\x03'

/-- The name after a numbered name: its last number one more, in as many digits. -/
def nextNumbered (name : String) : String :=
  let cs := name.toList.reverse
  let tail := cs.takeWhile fun c => !c.isDigit
  let digits := (cs.drop tail.length).takeWhile Char.isDigit
  let front := cs.drop (tail.length + digits.length)
  let value := digits.foldr (fun c acc => acc * 10 + (c.toNat - '0'.toNat)) 0 + 1
  let shown := Nat.toDigits 10 value
  String.ofList (front.reverse ++ List.replicate (digits.length - shown.length) '0' ++ shown ++
    tail.reverse)

/-- Reading `nameCode`: the words of the name before, the words of the current name and the
letters of the word being spelled out (both last first), and the names read (last first). -/
structure NameReader where
  before : List String := []
  words : List String := []
  letters : List Char := []
  names : List String := []

namespace NameReader

/-- End the word being spelled out. -/
def endWord (r : NameReader) : NameReader :=
  if r.letters.isEmpty then r
  else { r with words := String.ofList r.letters.reverse :: r.words, letters := [] }

/-- End the current name. -/
def endName (r : NameReader) : NameReader :=
  let r := r.endWord
  if r.words.isEmpty then r
  else { r with before := r.words.reverse, words := [],
                names := " ".intercalate r.words.reverse :: r.names }

/-- Begin a name that shares its first `k` words with the name before. -/
def beginName (r : NameReader) (k : Nat) : NameReader :=
  let r := r.endName
  { r with words := (r.before.take k).reverse }

/-- Add `count` names after the last one read, each numbering the one before's next. -/
def addNumbered (r : NameReader) (count : Nat) : NameReader :=
  (List.range count).foldl (fun r _ =>
    let next := nextNumbered (r.names.headD "")
    { r with before := next.splitOn " ", names := next :: r.names }) r.endName

/-- Add the word at a place of `nameWords`. -/
def addWord (r : NameReader) (i : Nat) : NameReader :=
  let r := r.endWord
  { r with words := nameWords.getD i "" :: r.words }

end NameReader

/-- Decode the names of `nameCode`. -/
def decodeNames : List Char → NameReader → List String
  | [], r => r.endName.names.reverse
  | c :: rest, r =>
    if c == '\n' then decodeNames rest r
    else if c == ' ' then decodeNames rest r.endWord
    else if c == runMark then
      match rest with
      | n :: rest => decodeNames rest (r.addNumbered (alphabetPlace n + 1))
      | [] => r.names.reverse
    else if spelledLetter c then decodeNames rest { r with letters := c :: r.letters }
    else match sharedLetter? c with
      | some k => decodeNames rest (r.beginName k)
      | none =>
        let lead := (wordLetters.idxOf? c).getD 0
        if lead < 10 then decodeNames rest (r.addWord lead)
        else match rest with
          | d :: rest' =>
            if lead < 40 then decodeNames rest' (r.addWord (10 + (lead - 10) * 91 + alphabetPlace d))
            else match rest' with
              | e :: rest'' =>
                decodeNames rest'' (r.addWord (10 + 30 * 91 + alphabetPlace d * 91 + alphabetPlace e))
              | [] => r.names.reverse
          | [] => r.names.reverse

/-- The listed names, one per entry, in the order of `namedRuns`. -/
def nameArray : Array String :=
  (decodeNames (expandCopies (nameCode.toList.filter (· != '\n')) #[]).toList {}).toArray

/-- The code point of the listed name at a place of `nameArray`. -/
def namedPoint? : List (Nat × Nat) → Nat → Option Nat
  | [], _ => none
  | (start, count) :: rest, i => if i < count then some (start + i) else namedPoint? rest (i - count)

/-- The short names of the leading consonants of Hangul syllables. -/
def hangulLeads : Array String :=
  #["G", "GG", "N", "D", "DD", "R", "M", "B", "BB", "S", "SS", "", "J", "JJ", "C", "K", "T",
    "P", "H"]

/-- The short names of the vowels of Hangul syllables. -/
def hangulVowels : Array String :=
  #["A", "AE", "YA", "YAE", "EO", "E", "YEO", "YE", "O", "WA", "WAE", "OE", "YO", "U", "WEO",
    "WE", "WI", "YU", "EU", "YI", "I"]

/-- The short names of the trailing consonants of Hangul syllables, none first. -/
def hangulTails : Array String :=
  #["", "G", "GG", "GS", "N", "NJ", "NH", "D", "L", "LG", "LM", "LB", "LS", "LT", "LP", "LH",
    "M", "B", "BS", "S", "SS", "NG", "J", "C", "K", "T", "P", "H"]

/-- The first Hangul syllable. -/
def hangulFirst : Nat := 0xAC00

/-- The longest short name of a table that starts `cs`, with its place; a table that holds
the empty name always has one. -/
def longestShort (table : Array String) (cs : List Char) : Option (Nat × Nat) :=
  (List.range table.size).foldl (fun best i =>
    let short := (table.getD i "").toList
    let longer := match best with
      | some (_, len) => short.length > len
      | none => true
    if longer && short.isPrefixOf cs then some (i, short.length) else best) none

/-- The syllable spelled by a leading consonant, a vowel and a trailing consonant, each the
longest short name that fits, with nothing left over. -/
def hangulByShortNames (cs : List Char) : Option Nat := do
  let (l, ln) ← longestShort hangulLeads cs
  let cs := cs.drop ln
  let (v, vn) ← longestShort hangulVowels cs
  let cs := cs.drop vn
  let (t, tn) ← longestShort hangulTails cs
  if cs.length == tn then some (hangulFirst + (l * 21 + v) * 28 + t) else none

/-- Upper-case ASCII letters of a name. -/
def upperName (s : String) : String := s.map Char.toUpper

/-- The upper-case hex digits of a number, at least four. -/
def hexName (n : Nat) : String :=
  let ds := String.ofList ((Nat.toDigits 16 n).map Char.toUpper)
  String.ofList (List.replicate (4 - ds.length) '0') ++ ds

/-- The value of upper-case hex digits, if there are some and all are. -/
def hexValue? (digits : List Char) : Option Nat :=
  if digits.isEmpty || !digits.all (fun c => c.isDigit || ('A' ≤ c && c ≤ 'F')) then none
  else some (digits.foldl (fun acc c =>
    acc * 16 + (if c.isDigit then c.toNat - '0'.toNat else c.toNat - 'A'.toNat + 10)) 0)

/-- The prefix of the unified ideographs' names. A lookup reads these names by rule and
strictly: the prefix in upper case, then four or five upper-case hex digits. -/
def unifiedPrefix : String := "CJK UNIFIED IDEOGRAPH-"

/-- The ranges of an ideograph prefix. -/
def ideographRanges (pre : String) : List (Nat × Nat) :=
  ((ideographNames.find? (·.1 == pre)).map (·.2)).getD []

/-- The unified ideograph of the digits after the prefix. -/
def unifiedByDigits (digits : List Char) : Option Nat := do
  if digits.length != 4 && digits.length != 5 then none
  let n ← hexValue? digits
  if inRanges (ideographRanges unifiedPrefix) n then some n else none

/-- The ideograph, other than a unified one, whose name is an upper-case name. -/
def otherIdeograph? (up : String) : Option Nat :=
  ideographNames.findSome? fun (pre, ranges) => do
    if pre == unifiedPrefix || !up.startsWith pre then none
    let digits := up.toList.drop pre.length
    let n ← hexValue? digits
    if inRanges ranges n && (hexName n).toList == digits then some n else none

/-- The code point a name stands for.

* A name that starts `HANGUL SYLLABLE ` in any case is a syllable's, whose short names are
  read in upper case only.
* A name that starts `CJK UNIFIED IDEOGRAPH-` is a unified ideograph's, with four or five
  upper-case hex digits.
* Any other name is compared in upper case with the aliases, the listed names and the other
  ideographs' names. -/
def charByName? (name : String) : Option Nat :=
  let hangulPrefix := "HANGUL SYLLABLE "
  if upperName (String.ofList (name.toList.take hangulPrefix.length)) == hangulPrefix then
    hangulByShortNames (name.toList.drop hangulPrefix.length)
  else if name.startsWith unifiedPrefix then
    unifiedByDigits (name.toList.drop unifiedPrefix.length)
  else
    let up := upperName name
    match nameAliases.lookup up with
    | some n => some n
    | none =>
      match otherIdeograph? up with
      | some n => some n
      | none => (nameArray.findIdx? (· == up)).bind (namedPoint? namedRuns)

end GraphProbe.Text
