namespace NullContract.CharName

def brahmicScriptsNames : String :=
    ":11000aBRAHMI_SIGN_CANDRABINDUcANUSVARAcVISARGAcJIHVAMULIYAcUPADHMANIYAbLETTER_AcAAcIcIIcUcUUcVOCALIC_RdRRdLdLL
    cEcAIcOcAUcKAcKHAcGAcGHAcNGAcCAcCHAcJAcJHAcNYAcTTAcTTHAcDDAcDDHAcNNAcTAcTHAcDAcDHAcNAcPAcPHAcBAcBHAcMAcYAcRAcLA
    cVAcSHAcSSAcSAcHAcLLAcOLD_TAMIL_LLLAeRRAeNNNAbVOWEL_SIGN_AAdBHATTIPROLU_AAdIdIIdUdUUdVOCALIC_ReRReLeLLdEdAIdOdAU
    bVIRAMAbDANDAbDOUBLE_DANDAbPUNCTUATION_DOTcDOUBLE_DOTcLINEcCRESCENT_BARcLOTUS:11052bNUMBER_ONEcTWOcTHREEcFOUR
    cFIVEcSIXcSEVENcEIGHTcNINEcTENcTWENTYcTHIRTYcFORTYcFIFTYcSIXTYcSEVENTYcEIGHTYcNINETYcONE_HUNDREDdTHOUSAND
    bDIGIT_ZEROcONEcTWOcTHREEcFOURcFIVEcSIXcSEVENcEIGHTcNINEbSIGN_OLD_TAMIL_VIRAMAbLETTER_OLD_TAMIL_SHORT_EfO
    bVOWEL_SIGN_OLD_TAMIL_SHORT_EgObLETTER_OLD_TAMIL_LLA:1107FbNUMBER_JOINERaKAITHI_SIGN_CANDRABINDUcANUSVARA
    cVISARGAbLETTER_AcAAcIcIIcUcUUcEcAIcOcAUcKAcKHAcGAcGHAcNGAcCAcCHAcJAcJHAcNYAcTTAcTTHAcDDAcDDDHAcDDHAcRHAcNNAcTA
    cTHAcDAcDHAcNAcPAcPHAcBAcBHAcMAcYAcRAcLAcVAcSHAcSSAcSAcHAbVOWEL_SIGN_AAdIdIIdUdUUdEdAIdOdAUbSIGN_VIRAMAcNUKTA
    bABBREVIATION_SIGNbENUMERATION_SIGNbNUMBER_SIGNbSECTION_MARKbDOUBLE_SECTION_MARKbDANDAbDOUBLE_DANDA
    bVOWEL_SIGN_VOCALIC_R:110CDbNUMBER_SIGN_ABOVE:110D0aSORA_SOMPENG_LETTER_SAHdTAHdBAHdCAHdDAHdGAHdMAHdNGAHdLAHdNAH
    dVAHdPAHdYAHdRAHdHAHdKAHdJAHdNYAHdAHdEEHdIHdUHdOHdEHdMAE:110F0cDIGIT_ZEROdONEdTWOdTHREEdFOURdFIVEdSIXdSEVEN
    dEIGHTdNINE:11100aCHAKMA_SIGN_CANDRABINDUcANUSVARAcVISARGAbLETTER_AAcIcUcEcKAAcKHAAcGAAcGHAAcNGAAcCAAcCHAAcJAA
    cJHAAcNYAAcTTAAcTTHAAcDDAAcDDHAAcNNAAcTAAcTHAAcDAAcDHAAcNAAcPAAcPHAAcBAAcBHAAcMAAcYYAAcYAAcRAAcLAAcWAAcSAAcHAA
    bVOWEL_SIGN_AdIdIIdUdUUdEdAIdOdAUdOIbO_MARKbAU_MARKbVIRAMAbMAAYYAA:11136bDIGIT_ZEROcONEcTWOcTHREEcFOURcFIVEcSIX
    cSEVENcEIGHTcNINEbSECTION_MARKbDANDAbDOUBLE_DANDAbQUESTION_MARKbLETTER_LHAAbVOWEL_SIGN_AAdEIbLETTER_VAA
    :11150aMAHAJANI_LETTER_AcIcUcEcOcKAcKHAcGAcGHAcCAcCHAcJAcJHAcNYAcTTAcTTHAcDDAcDDHAcNNAcTAcTHAcDAcDHAcNAcPAcPHA
    cBAcBHAcMAcRAcLAcVAcSAcHAcRRAbSIGN_NUKTAbABBREVIATION_SIGNbSECTION_MARKbLIGATURE_SHRI
    :11180aSHARADA_SIGN_CANDRABINDUcANUSVARAcVISARGAbLETTER_AcAAcIcIIcUcUUcVOCALIC_RdRRdLdLLcEcAIcOcAUcKAcKHAcGAcGHA
    cNGAcCAcCHAcJAcJHAcNYAcTTAcTTHAcDDAcDDHAcNNAcTAcTHAcDAcDHAcNAcPAcPHAcBAcBHAcMAcYAcRAcLAcLLAcVAcSHAcSSAcSAcHA
    bVOWEL_SIGN_AAdIdIIdUdUUdVOCALIC_ReRReLeLLdEdAIdOdAUbSIGN_VIRAMAcAVAGRAHAcJIHVAMULIYAcUPADHMANIYAbOMbDANDA
    bDOUBLE_DANDAbABBREVIATION_SIGNbSEPARATORbSANDHI_MARKbSIGN_NUKTAbVOWEL_MODIFIER_MARKbEXTRA_SHORT_VOWEL_MARK
    bSUTRA_MARKbVOWEL_SIGN_PRISHTHAMATRA_EbSIGN_INVERTED_CANDRABINDUbDIGIT_ZEROcONEcTWOcTHREEcFOURcFIVEcSIXcSEVEN
    cEIGHTcNINEbEKAMbSIGN_SIDDHAMbHEADSTROKEbCONTINUATION_SIGNbSECTION_MARK-1cMARK-2:111E1aSINHALA_ARCHAIC_DIGIT_ONE
    dTWOdTHREEdFOURdFIVEdSIXdSEVENdEIGHTdNINEcNUMBER_TENdTWENTYdTHIRTYdFORTYdFIFTYdSIXTYdSEVENTYdEIGHTYdNINETY
    dONE_HUNDREDeTHOUSAND:11200aKHOJKI_LETTER_AcAAcIcUcEcAIcOcAUcKAcKHAcGAcGGAcGHAcNGAcCAcCHAcJAcJJA:11213cNYAcTTA
    cTTHAcDDAcDDHAcNNAcTAcTHAcDAcDDDAcDHAcNAcPAcPHAcBAcBBAcBHAcMAcYAcRAcLAcVAcSAcHAcLLAbVOWEL_SIGN_AAdIdIIdUdEdAIdO
    dAUbSIGN_ANUSVARAcVIRAMAcNUKTAcSHADDAbDANDAbDOUBLE_DANDAbWORD_SEPARATORbSECTION_MARKbDOUBLE_SECTION_MARK
    bABBREVIATION_SIGNbSIGN_SUKUN:11280aMULTANI_LETTER_AcIcUcEcKAcKHAcGA:11288cGHA:1128AcCAcCHAcJAcJJA:1128FcNYAcTTA
    cTTHAcDDAcDDDAcDDHAcNNAcTAcTHAcDAcDHAcNAcPAcPHAcBA:1129FcBHAcMAcYAcRAcLAcVAcSAcHAcRRAcRHAbSECTION_MARK
    :112B0aKHUDAWADI_LETTER_AcAAcIcIIcUcUUcEcAIcOcAUcKAcKHAcGAcGGAcGHAcNGAcCAcCHAcJAcJJAcJHAcNYAcTTAcTTHAcDDAcDDDA
    cRRAcDDHAcNNAcTAcTHAcDAcDHAcNAcPAcPHAcBAcBBAcBHAcMAcYAcRAcLAcVAcSHAcSAcHAbSIGN_ANUSVARAbVOWEL_SIGN_AAdIdIIdUdUU
    dEdAIdOdAUbSIGN_NUKTAcVIRAMA:112F0bDIGIT_ZEROcONEcTWOcTHREEcFOURcFIVEcSIXcSEVENcEIGHTcNINE
    :11300aGRANTHA_SIGN_COMBINING_ANUSVARA_ABOVEcCANDRABINDUcANUSVARAcVISARGA:11305bLETTER_AcAAcIcIIcUcUUcVOCALIC_R
    dL:1130FcEEcAI:11313cOOcAUcKAcKHAcGAcGHAcNGAcCAcCHAcJAcJHAcNYAcTTAcTTHAcDDAcDDHAcNNAcTAcTHAcDAcDHAcNA:1132AcPA
    cPHAcBAcBHAcMAcYAcRA:11332cLAcLLA:11335cVAcSHAcSSAcSAcHA:1133BaCOMBINING_BINDU_BELOWaGRANTHA_SIGN_NUKTAcAVAGRAHA
    bVOWEL_SIGN_AAdIdIIdUdUUdVOCALIC_ReRR:11347dEEdAI:1134BdOOdAUbSIGN_VIRAMA:11350bOM:11357bAU_LENGTH_MARK
    :1135DbSIGN_PLUTAbLETTER_VEDIC_ANUSVARAdDOUBLE_ANUSVARAcVOCALIC_RRdLLbVOWEL_SIGN_VOCALIC_LeLL
    :11366aCOMBINING_GRANTHA_DIGIT_ZEROdONEdTWOdTHREEdFOURdFIVEdSIX:11370cLETTER_AdKAdNAdVIdPA:11400aNEWA_LETTER_A
    cAAcIcIIcUcUUcVOCALIC_RdRRdLdLLcEcAIcOcAUcKAcKHAcGAcGHAcNGAcNGHAcCAcCHAcJAcJHAcNYAcNYHAcTTAcTTHAcDDAcDDHAcNNAcTA
    cTHAcDAcDHAcNAcNHAcPAcPHAcBAcBHAcMAcMHAcYAcRAcRHAcLAcLHAcWAcSHAcSSAcSAcHAbVOWEL_SIGN_AAdIdIIdUdUUdVOCALIC_ReRReL
    eLLdEdAIdOdAUbSIGN_VIRAMAcCANDRABINDUcANUSVARAcVISARGAcNUKTAcAVAGRAHAcFINAL_ANUSVARAbOMbSIDDHIbDANDA
    bDOUBLE_DANDAbCOMMAbGAP_FILLERbABBREVIATION_SIGNbDIGIT_ZEROcONEcTWOcTHREEcFOURcFIVEcSIXcSEVENcEIGHTcNINE
    bDOUBLE_COMMAbPLACEHOLDER_MARK:1145DbINSERTION_SIGNbSANDHI_MARKbLETTER_VEDIC_ANUSVARAbSIGN_JIHVAMULIYA
    cUPADHMANIYA:11480aTIRHUTA_ANJIbLETTER_AcAAcIcIIcUcUUcVOCALIC_RdRRdLdLLcEcAIcOcAUcKAcKHAcGAcGHAcNGAcCAcCHAcJA
    cJHAcNYAcTTAcTTHAcDDAcDDHAcNNAcTAcTHAcDAcDHAcNAcPAcPHAcBAcBHAcMAcYAcRAcLAcVAcSHAcSSAcSAcHAbVOWEL_SIGN_AAdIdIIdU
    dUUdVOCALIC_ReRReLeLLdEdSHORT_EdAIdOdSHORT_OdAUbSIGN_CANDRABINDUcANUSVARAcVISARGAcVIRAMAcNUKTAcAVAGRAHAbGVANG
    bABBREVIATION_SIGNbOM:114D0bDIGIT_ZEROcONEcTWOcTHREEcFOURcFIVEcSIXcSEVENcEIGHTcNINE:11580aSIDDHAM_LETTER_AcAAcI
    cIIcUcUUcVOCALIC_RdRRdLdLLcEcAIcOcAUcKAcKHAcGAcGHAcNGAcCAcCHAcJAcJHAcNYAcTTAcTTHAcDDAcDDHAcNNAcTAcTHAcDAcDHAcNA
    cPAcPHAcBAcBHAcMAcYAcRAcLAcVAcSHAcSSAcSAcHAbVOWEL_SIGN_AAdIdIIdUdUUdVOCALIC_ReRR:115B8dEdAIdOdAU
    bSIGN_CANDRABINDUcANUSVARAcVISARGAcVIRAMAcNUKTAcSIDDHAMbDANDAbDOUBLE_DANDAbSEPARATOR_DOTcBARbREPETITION_MARK-1
    cMARK-2cMARK-3bEND_OF_TEXT_MARKbSECTION_MARK_WITH_TRIDENT_AND_U-SHAPED_ORNAMENTSgDOTTED_CRESCENTS
    eRAYS_AND_DOTTED_CRESCENTShDOUBLE_CRESCENTShTRIPLE_CRESCENTSdDOUBLE_RINGfWITH_RAYSdWITH_DOUBLE_CRESCENTS
    eTRIPLE_CRESCENTSeQUADRUPLE_CRESCENTSeSEPTUPLE_CRESCENTSeCIRCLES_AND_RAYSgTWO_ENCLOSURESgFOUR_ENCLOSURES
    bLETTER_THREE-CIRCLE_ALTERNATE_IcTWO-CIRCLE_ALTERNATE_IeIIcALTERNATE_UbVOWEL_SIGN_ALTERNATE_UeUU
    :11600aMODI_LETTER_AcAAcIcIIcUcUUcVOCALIC_RdRRdLdLLcEcAIcOcAUcKAcKHAcGAcGHAcNGAcCAcCHAcJAcJHAcNYAcTTAcTTHAcDDA
    cDDHAcNNAcTAcTHAcDAcDHAcNAcPAcPHAcBAcBHAcMAcYAcRAcLAcVAcSHAcSSAcSAcHAcLLAbVOWEL_SIGN_AAdIdIIdUdUUdVOCALIC_ReRReL
    eLLdEdAIdOdAUbSIGN_ANUSVARAcVISARGAcVIRAMAcARDHACANDRAbDANDAbDOUBLE_DANDAbABBREVIATION_SIGNbSIGN_HUVA
    :11650bDIGIT_ZEROcONEcTWOcTHREEcFOURcFIVEcSIXcSEVENcEIGHTcNINE:11660aMONGOLIAN_BIRGA_WITH_ORNAMENTbROTATED_BIRGA
    bDOUBLE_BIRGA_WITH_ORNAMENTbTRIPLE_BIRGA_WITH_ORNAMENTbBIRGA_WITH_DOUBLE_ORNAMENTbROTATED_BIRGA_WITH_ORNAMENT
    eDOUBLE_ORNAMENTbINVERTED_BIRGAdWITH_DOUBLE_ORNAMENTbSWIRL_BIRGAdWITH_ORNAMENTeDOUBLE_ORNAMENT
    bTURNED_SWIRL_BIRGA_WITH_DOUBLE_ORNAMENT:11680aTAKRI_LETTER_AcAAcIcIIcUcUUcEcAIcOcAUcKAcKHAcGAcGHAcNGAcCAcCHAcJA
    cJHAcNYAcTTAcTTHAcDDAcDDHAcNNAcTAcTHAcDAcDHAcNAcPAcPHAcBAcBHAcMAcYAcRAcLAcVAcSHAcSAcHAcRRAbSIGN_ANUSVARAcVISARGA
    bVOWEL_SIGN_AAdIdIIdUdUUdEdAIdOdAUbSIGN_VIRAMAcNUKTAbLETTER_ARCHAIC_KHAbABBREVIATION_SIGN:116C0bDIGIT_ZEROcONE
    cTWOcTHREEcFOURcFIVEcSIXcSEVENcEIGHTcNINE:11700aAHOM_LETTER_KAcKHAcNGAcNAcTAcALTERNATE_TAcPAcPHAcBAcMAcJAcCHA
    cTHAcRAcLAcSAcNYAcHAcAcDAcDHAcGAcALTERNATE_GAcGHAcBHAcJHAcALTERNATE_BA:1171DbCONSONANT_SIGN_MEDIAL_LAeRA
    eLIGATING_RAbVOWEL_SIGN_AdAAdIdIIdUdUUdEdAWdOdAIdAMbSIGN_KILLER:11730bDIGIT_ZEROcONEcTWOcTHREEcFOURcFIVEcSIX
    cSEVENcEIGHTcNINEbNUMBER_TENcTWENTYbSIGN_SMALL_SECTIONcSECTIONcRULAIbSYMBOL_VIbLETTER_CAcTTAcTTHAcDDAcDDHAcNNA
    cLLA:11800aDOGRA_LETTER_AcAAcIcIIcUcUUcEcAIcOcAUcKAcKHAcGAcGHAcNGAcCAcCHAcJAcJHAcNYAcTTAcTTHAcDDAcDDHAcNNAcTA
    cTHAcDAcDHAcNAcPAcPHAcBAcBHAcMAcYAcRAcLAcVAcSHAcSSAcSAcHAcRRAbVOWEL_SIGN_AAdIdIIdUdUUdVOCALIC_ReRRdEdAIdOdAU
    bSIGN_ANUSVARAcVISARGAcVIRAMAcNUKTAbABBREVIATION_SIGN:118A0aWARANG_CITI_CAPITAL_LETTER_NGAAeAeWIeYUeYAeYOeIIeUU
    eEeOeANGeGAeKOeENYeYUJeUCeENNeODDeTTEeNUNGeDAeATeAMeBUePUeHIYOeHOLOeHORReHAReSSUUeSIIeVIYOcSMALL_LETTER_NGAAeA
    eWIeYUeYAeYOeIIeUUeEeOeANGeGAeKOeENYeYUJeUCeENNeODDeTTEeNUNGeDAeATeAMeBUePUeHIYOeHOLOeHORReHAReSSUUeSIIeVIYO
    cDIGIT_ZEROdONEdTWOdTHREEdFOURdFIVEdSIXdSEVENdEIGHTdNINEcNUMBER_TENdTWENTYdTHIRTYdFORTYdFIFTYdSIXTYdSEVENTY
    dEIGHTYdNINETY:118FFcOMaDIVES_AKURU_LETTER_AdAAdIdIIdUdUUdE:11909dO:1190CdKAdKHAdGAdGHAdNGAdCAdCHAdJA:11915dNYA
    dTTA:11918dDDAdDDHAdNNAdTAdTHAdDAdDHAdNAdPAdPHAdBAdBHAdMAdYAdYYAdRAdLAdVAdSHAdSSAdSAdHAdLLAdZAcVOWEL_SIGN_AAeI
    eIIeUeUUeE:11937eAIeO:1193BcSIGN_ANUSVARAdCANDRABINDUdHALANTAcVIRAMAcPREFIXED_NASAL_SIGNcMEDIAL_YAcINITIAL_RA
    cMEDIAL_RAcSIGN_NUKTAcDOUBLE_DANDAcGAP_FILLERcEND_OF_TEXT_MARK:11950cDIGIT_ZEROdONEdTWOdTHREEdFOURdFIVEdSIX
    dSEVENdEIGHTdNINE:119A0aNANDINAGARI_LETTER_AcAAcIcIIcUcUUcVOCALIC_RdRR:119AAcEcAIcOcAUcKAcKHAcGAcGHAcNGAcCAcCHA
    cJAcJHAcNYAcTTAcTTHAcDDAcDDHAcNNAcTAcTHAcDAcDHAcNAcPAcPHAcBAcBHAcMAcYAcRAcLAcVAcSHAcSSAcSAcHAcLLAcRRA
    bVOWEL_SIGN_AAdIdIIdUdUUdVOCALIC_ReRR:119DAdEdAIdOdAUbSIGN_ANUSVARAcVISARGAcVIRAMAcAVAGRAHAcSIDDHAMbHEADSTROKE
    bVOWEL_SIGN_PRISHTHAMATRA_E:11A00aZANABAZAR_SQUARE_LETTER_AcVOWEL_SIGN_IeUEeUeEeOEeOeAIeAUeREVERSED_I
    dLENGTH_MARKcLETTER_KAdKHAdGAdGHAdNGAdCAdCHAdJAdNYAdTTAdTTHAdDDAdDDHAdNNAdTAdTHAdDAdDHAdNAdPAdPHAdBAdBHAdMAdTSA
    dTSHAdDZAdDZHAdZHAdZAd-AdYAdRAdLAdVAdSHAdSSAdSAdHAdKSSAcFINAL_CONSONANT_MARKcSIGN_VIRAMAdCANDRABINDU
    eWITH_ORNAMENTdCANDRA_WITH_ORNAMENTdANUSVARAdVISARGAcCLUSTER-INITIAL_LETTER_RAcCLUSTER-FINAL_LETTER_YAeRAeLAeVA
    cINITIAL_HEAD_MARKcCLOSING_HEAD_MARKcMARK_TSHEGdSHADdDOUBLE_SHADdLONG_TSHEGcINITIAL_DOUBLE-LINED_HEAD_MARK
    cCLOSING_DOUBLE-LINED_HEAD_MARKcSUBJOINER:11A50aSOYOMBO_LETTER_AbVOWEL_SIGN_IdUEdUdEdOdOEdAIdAUdVOCALIC_ReL
    cLENGTH_MARKbLETTER_KAcKHAcGAcGHAcNGAcCAcCHAcJAcJHAcNYAcTTAcTTHAcDDAcDDHAcNNAcTAcTHAcDAcDHAcNAcPAcPHAcBAcBHAcMA
    cTSAcTSHAcDZAcZHAcZAc-AcYAcRAcLAcVAcSHAcSSAcSAcHAcKSSAbSIGN_JIHVAMULIYAcUPADHMANIYAbCLUSTER-INITIAL_LETTER_RAdLA
    dSHAdSAbFINAL_CONSONANT_SIGN_GeKeNGeDeNeBeMeReLeSHeSe-AbSIGN_ANUSVARAcVISARGAbGEMINATION_MARKbSUBJOINER
    bMARK_TSHEGcSHADcDOUBLE_SHADcPLUTAbHEAD_MARK_WITH_MOON_AND_SUN_AND_TRIPLE_FLAMEiFLAMEgSUNbTERMINAL_MARK-1cMARK-2
    :11AB0aCANADIAN_SYLLABICS_NATTILIK_HIdHIIdHOdHOOdHAdHAAdSHRIdSHRIIdSHROdSHROOdSHRAdSHRAAcSPEcSPIcSPOcSPA
    aPAU_CIN_HAU_LETTER_PAeKAeLAeMAeDAeZAeVAeNGAeHAeGAeKHAeSAeBAeCAeTAeTHAeNAePHAeRAeFAeCHAeAeEeIeOeUeUAeIAeFINAL_P
    fKfTfMfNfLfWfNGfYdRISING_TONE_LONGeTONEdSANDHI_GLOTTAL_STOPdRISING_TONE_LONG_FINALfFINAL
    dSANDHI_GLOTTAL_STOP_FINALeTONE_LONGeTONEfLONG_FINALfFINALdMID-LEVEL_TONEdGLOTTAL_STOP_VARIANT
    dMID-LEVEL_TONE_LONG_FINALfFINALdLOW-FALLING_TONE_LONGeTONEdGLOTTAL_STOPdLOW-FALLING_TONE_LONG_FINALfFINAL
    dGLOTTAL_STOP_FINAL:11C00aBHAIKSUKI_LETTER_AcAAcIcIIcUcUUcVOCALIC_RdRRdL:11C0AcEcAIcOcAUcKAcKHAcGAcGHAcNGAcCA
    cCHAcJAcJHAcNYAcTTAcTTHAcDDAcDDHAcNNAcTAcTHAcDAcDHAcNAcPAcPHAcBAcBHAcMAcYAcRAcLAcVAcSHAcSSAcSAcHAbVOWEL_SIGN_AA
    dIdIIdUdUUdVOCALIC_ReRReL:11C38dEdAIdOdAUbSIGN_CANDRABINDUcANUSVARAcVISARGAcVIRAMAcAVAGRAHAbDANDAbDOUBLE_DANDA
    bWORD_SEPARATORbGAP_FILLER-1cFILLER-2:11C50bDIGIT_ZEROcONEcTWOcTHREEcFOURcFIVEcSIXcSEVENcEIGHTcNINEbNUMBER_ONE
    cTWOcTHREEcFOURcFIVEcSIXcSEVENcEIGHTcNINEcTENcTWENTYcTHIRTYcFORTYcFIFTYcSIXTYcSEVENTYcEIGHTYcNINETY
    bHUNDREDS_UNIT_MARK:11C70aMARCHEN_HEAD_MARKbMARK_SHADbLETTER_KAcKHAcGAcNGAcCAcCHAcJAcNYAcTAcTHAcDAcNAcPAcPHAcBA
    cMAcTSAcTSHAcDZAcWAcZHAcZAc-AcYAcRAcLAcSHAcSAcHAcA:11C92bSUBJOINED_LETTER_KAdKHAdGAdNGAdCAdCHAdJAdNYAdTAdTHAdDA
    dNAdPAdPHAdBAdMAdTSAdTSHAdDZAdWAdZHAdZA:11CA9dYAdRAdLAdSHAdSAdHAdAbVOWEL_SIGN_AAdIdUdEdObSIGN_ANUSVARA
    cCANDRABINDU:11D00aMASARAM_GONDI_LETTER_AdAAdIdIIdUdUUdE:11D08dAIdO:11D0BdAUdKAdKHAdGAdGHAdNGAdCAdCHAdJAdJHAdNYA
    dTTAdTTHAdDDAdDDHAdNNAdTAdTHAdDAdDHAdNAdPAdPHAdBAdBHAdMAdYAdRAdLAdVAdSHAdSSAdSAdHAdLLAdKSSAdJNYAdTRA
    cVOWEL_SIGN_AAeIeIIeUeUUeVOCALIC_R:11D3AeE:11D3CeAIeO:11D3FeAUcSIGN_ANUSVARAdVISARGAdNUKTAdCANDRAdHALANTAcVIRAMA
    cREPHAcRA-KARA:11D50cDIGIT_ZEROdONEdTWOdTHREEdFOURdFIVEdSIXdSEVENdEIGHTdNINE:11D60aGUNJALA_GONDI_LETTER_AdAAdI
    dIIdUdUU:11D67dEEdAI:11D6AdOOdAUdYAdVAdBAdBHAdMAdKAdKHAdTAdTHAdLAdGAdGHAdDAdDHAdNAdCAdCHAdTTAdTTHAdLLAdJAdJHA
    dDDAdDDHAdNGAdPAdPHAdHAdRAdSAcVOWEL_SIGN_AAeIeIIeUeUU:11D90eEEeAI:11D93eOOeAUcSIGN_ANUSVARAdVISARGAcVIRAMAcOM
    :11DA0cDIGIT_ZEROdONEdTWOdTHREEdFOURdFIVEdSIXdSEVENdEIGHTdNINE:11EE0aMAKASAR_LETTER_KAcGAcNGAcPAcBAcMAcTAcDAcNA
    cCAcJAcNYAcYAcRAcLAcVAcSAcAbANGKAbVOWEL_SIGN_IdUdEdObPASSIMBANGbEND_OF_SECTION:11FB0aLISU_LETTER_YHA
    :11FC0aTAMIL_FRACTION_ONE_THREE-HUNDRED-AND-TWENTIETHdONE-HUNDRED-AND-SIXTIETHdEIGHTIETHdSIXTY-FOURTHdFORTIETH
    dTHIRTY-SECONDcTHREE_EIGHTIETHSdSIXTY-FOURTHScONE_TWENTIETHdSIXTEENTH-1dSIXTEENTH-2dTENTHdEIGHTH
    cTHREE_TWENTIETHSdSIXTEENTHScONE_FIFTHdQUARTERdHALF-1dHALF-2cTHREE_QUARTERScDOWNSCALING_FACTOR_KIIZHbSIGN_NEL
    cCEVITUcAAZHAAKKUcUZHAKKUcMUUVUZHAKKUcKURUNIcPATHAKKUcMUKKURUNIcKAACUcPANAMcPONcVARAAKANcPAARAMcKUZHIcVELI
    bWET_CULTIVATION_SIGNbDRY_CULTIVATION_SIGNbLAND_SIGNbSALT_PAN_SIGNbTRADITIONAL_CREDIT_SIGNcNUMBER_SIGN
    bCURRENT_SIGNbAND_ODD_SIGNbSPENT_SIGNbTOTAL_SIGNbIN_POSSESSION_SIGNbSTARTING_FROM_SIGNbSIGN_MUTHALIYAcVAKAIYARAA
    :11FFFbPUNCTUATION_END_OF_TEXT"

end NullContract.CharName
